/-
**Lower and upper case, one character at a time.**

A case map is given by runs: every `stride`-th code point from `first` to `last` is moved by
`offset` (`moveByRuns`). Where the standard maps a character to several, the first of them counts.
`caseCompanions` lists the groups of lower-case characters that share one upper-case form, such as
`s` and the long `ſ`: comparisons that ignore case take them for equal.
-/

import PromptChain.Text.CodeRanges

namespace PromptChain.Text

/-- Code points from `first` to `last`, `stride` apart, that a case map moves by `offset`. -/
structure CaseRun where
  first : Nat
  last : Nat
  stride : Nat
  offset : Int

/-- Runs given one after the other, from a code point on: each by how far its first code point is from the
last one before, how often it goes on, its stride, and the image of its first code point. -/
def caseRuns (before : Nat) : List Nat → List CaseRun
  | gap :: count :: stride :: image :: rest =>
    let first := before + gap
    let last := first + count * stride
    ⟨first, last, stride, image - first⟩ :: caseRuns last rest
  | _ => []

def CaseRun.covers (run : CaseRun) (code : Nat) : Bool :=
  run.first ≤ code && code ≤ run.last && (code - run.first) % run.stride == 0

/-- The image of a code point under the map that the runs describe. -/
def moveByRuns (runs : List CaseRun) (code : Nat) : Nat :=
  match runs.find? fun run => run.covers code with
  | some run => (code + run.offset).toNat
  | none => code

def lowerRuns : List CaseRun :=
  caseRuns 0 <| numbersOf "
HkwbIqcgbJoBixcJxcabEbcccLvdhcMcdwcMtcabJvbccOoeabWxbbcOxcabWybabPccbbXababPgdabSjbabXdbabXfbabPmcabXkbabXnc
abXtbabXsbabPteabXzbabYccabYfbccQbcabYqbabQicabYtdabQncabYybabQqcbbZabbcQucabZibabQzeabRdiabRmbabRmcabRpbabR
pcabRsbicRsdicSldabTfbbcTfcabPpbabRfbtcTlcabPycicVbiabQVdbabWacabPubabQVedabWgcabOubabYzbabZcbecWlLebcBHxeab
BIdjabBMxhabBKeccbBKfcabBLkcbbBLlcqbBKjcibBLbBkabBLvjlcBLxgabBKqdabBNccabBMwbabBNfdcbBIhbpbBQmbBfbBPgBxqcBRd
kBacBStcabBVjbgcBUwdBvcBVldBlbCAzEHeBlbRBccabRCpgabRCvBBvDbbCMYabfbHOqDGtBqbGJodcbGLhMjCwcLJlkabIpcBvcLPpkhb
LTgjfbLTwlhbLUmjhbLVcjfbLVsmdcLWjjhbLWyzhbLYejhbLYujhbLZkjbbMAabbbLXobabMAdmdbLXqbabMAtmbbMBgbbbLXunbbMBwbbb
LXybabMCbmbbLXwbbbLYababMCpLmabBLheabEdbabIvhabMPyBupbMRguabMSaBFnzbNYmCSvBvbQTcBxabQUzcabXvbabLEjbabYndccQV
gcabWvbabYbbabWubabWwcabQVrdabQVujbbWdbBxcQWfjbcRAifabRApBTYkwcCKYzuncCLBlFggcCLHreBecCLIhlbcCLLacabLEfbecCL
LffabCLLscabXpdbcCLLxejcCLMdcabXqbabXgbabXlbabXwbabXucabZubabYxbabZtbabCMWxbhcCLNhcabCLMababYsbabLFabbcCLOah
abCLOjgbcCLOpBdabCLPuBHAizbDSRhBVaBnbDUNoFhBjbDUUiGbkbDVBrcobDVCdcgbDVCtcbbDVDbCQdBybDXUeENmBfbECIiBGJxBfbFI
TkBULlBhbHDGc"

def upperRuns : List CaseRun :=
  caseRuns 0 <| numbersOf "
GzabBJoBqabDfbwbHkcgbIibabOmcxcJwcabCvcccLudhcMbbabBAycwcMsdccOnbabDfbabWhdbcOwdabPbeabPfgabPldabTieabPsbabW
beabUydccQadabQhfabQmdabQpebcQtdabQyeabRccabTjgabRkbabRkcabRnbabRncabRqbabRqchcRtbabPicicSkbabCwcabTdbabTdca
bTgetcTkeicVajabVzdbbQWccabWffecWkbabQVnbabQVlbabQVobabOvbabPacbbPdcabPjcabPkbabCLMxeabPnbabCLMycabPocabCLLt
babCLMwcabPrbabPqbabCLNababQVababCLMzdabPwcabQVmbabPxdabPziabQVcdabQgcabCLNxbabQjeabCLNdbabQobabWibbbQrbabWj
gabQxlabCLNebabCLNcGlabBJlBsbcBHweabBIcecbBNhtabBJlBcabBIsbcbBIubabBJxbqbBJdbabBJvbibBJvbabBIybbbBJacabBJeba
bBJkeabBJybabBJsbabBLnclcBLwbabBJmbabBJtbabBNdbabBIlcabBJhdabBNbdabBNeCbBfbBOabpbBNkcqcBRckBacBSsdgcBUvbabBU
ucBvcBVkByBlbBZdbabBZhEHdBqbKVgdcbKWzBDhfbHOiDFvabBOcbabBOebabBOobbbBOrbabBOsbabBPababBRebabCKZiJhabCLLdeabQ
VbrabCLNyElCwcLJkbabCubabDgbabDjbabDlbabCnbabLNcgBvcLPobhbLTojfbLUelhbLUujhbLVkjfbLWalabBJxbabLWrbabBJxbabLW
tbabBJxbabLWvbabBJxbabLWxjhbLXgjbbMAkbdbMAybbbMBqbbbMCubbbMCgbbbMCwdhbLTobhbLTobhbLUubhbLUubhbLXgbhbLXgbcbMA
ibabBJdbabBIscabBJdbabBJdfabBJdcabBJleabMBababBJjbabBIvcabBJjbabBJjfabBJjebbMBobabBJlbabBJldabBJlbabBJljbbMC
ebabBJxbabBJxbabBJtbabMCibabBJxbabBJxlabMCwbabBKbbabBJbcabBKbbabBKbfabBKbNaabMOwBipbMQqfabMRzBGmzbNXmCTrBvbQ
RgcabQUyeabVybabWccccQVfhabQVqdabQVtlBxcQWejbcRAhfabRAonBlbGHscabGJfgabGJlBTWewcCKYyuncCLBkFggcCLHqeBecCLIgl
bcCLKzdecCLLefabCLLrfbcCLLwbabCLNwdjcCLMcmhcCLNgfbcCLNzhabCLOigbcCLOoBdabCLPtBHdabCLNfBdDbbHLgBEAjabCsbabCsb
abCsbabCsbabCsbabDfbabDfnabBZwbabBZwbabBZwbabCAgbabBZwBPazbDSQbBViBnbDUMaFhBjbDUSuGakbDVAecobDVAqcgbDVBgcbbD
VBoCRcBybDXRsEMgBfbECHcBGJxBfbFISeBULnBhbHDEu"

def lowerCode (code : Nat) : Nat :=
  if code < 128 then if 0x41 ≤ code && code ≤ 0x5a then code + 32 else code
  else moveByRuns lowerRuns code

def upperCode (code : Nat) : Nat :=
  if code < 128 then if 0x61 ≤ code && code ≤ 0x7a then code - 32 else code
  else moveByRuns upperRuns code

/-- Whether one of the two case maps moves a character. -/
def isCasedCode (code : Nat) : Bool :=
  lowerCode code != code || upperCode code != code

/-- Groups of lower-case characters with one upper-case form. -/
def caseCompanions : List (List Nat) :=
  [[0x69, 0x131], [0x73, 0x17f], [0xb5, 0x3bc], [0x345, 0x3b9, 0x1fbe], [0x390, 0x1fd3],
   [0x3b0, 0x1fe3], [0x3b2, 0x3d0], [0x3b5, 0x3f5], [0x3b8, 0x3d1], [0x3ba, 0x3f0], [0x3c0, 0x3d6],
   [0x3c1, 0x3f1], [0x3c2, 0x3c3], [0x3c6, 0x3d5], [0x432, 0x1c80], [0x434, 0x1c81],
   [0x43e, 0x1c82], [0x441, 0x1c83], [0x442, 0x1c84, 0x1c85], [0x44a, 0x1c86], [0x463, 0x1c87],
   [0x1c88, 0xa64b], [0x1e61, 0x1e9b], [0xfb05, 0xfb06]]

/-- The other lower-case characters that share the upper-case form of a lower-case one. -/
def companionsOf (code : Nat) : List Nat :=
  match caseCompanions.find? fun group => group.contains code with
  | some group => group.filter (· != code)
  | none => []

end PromptChain.Text
