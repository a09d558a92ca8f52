/-
**Where words of cased letters end.**

Whether a character stands at the end of a word depends on its neighbours. Characters that words hold
besides their letters, such as accents, apostrophes and points (`ignorableRuns`), are looked past;
then it matters whether the next character is a cased letter (`casedRuns`). Both tables are those of
version 14 of the Unicode standard; characters that belong to both properties stand in the first.
-/

import PromptChain.Text.CodeRanges

namespace PromptChain.Text

/-- The characters that are looked past. -/
def ignorableRuns : CodeRuns :=
  numbersOf "
BnbgblbBjbbbCtbebbbebccTjHkecebjcbbJrhHzbfbBxBtbbbcbcbbBsblgklbbBjbkvqbDxibkbeBhbbbBeBbDnlCglebcbyyBrdBsbhcg
iBpCgCdbbbeiebdhkcnbpbCgbeeibucBabccCfbececcddbBecdblcCfbefbcebucwgbbCgbcbbeibhclcBebCjbmbBybdbCdbbdfdbehclc
BdbCgbcbgbfcucBccCfceeibucBdbCubhdbbDmbchljDubcjjbbgCwcBbbbbbbCdobfbcflbBkjbDyebgbccczcedqenbccgbpbDqbXkdBKk
dBdcBecBecCmcbhibcldbfbBtfBzbCncBibEodecjbgdIlccbCgbbhbbbbcigkcbBnbiBfBxeBwbbfbbfbBojmcBgeccbdCebbcdbbdCgicc
CmgDedbnbhebgbdcByClnbBiDxRdbbdldndndncmfickbcbcfBxfbkbbnbqnBzBhEJrcEjdEvbpbDsBgBvbSbbBkedffbDpgDpdBQBubBWcg
KkbDuebkbbBceDccoBiDabxdDzddcibdbebzcfbFvcBasnbBmizlBudBwbceccrbvcCogccccmbibBjblbBzbbdccfcbbBbbocfcbbDwfjdE
rbcbebBDZsbFrrWbqdbmqBibcbGnbhbgblbBjbbbBvbBtcCpbvdTtbIsbFtfBNpgbBqbjWkdbcfeBodebGjcWbeOxcFxlBxeEtbCcpBpbcck
dBxecccbebkbBydBkfbiCkbmcCajkecbDrdcbbcgbGebdivcCfcdbBlhdfHnicdbbxbDggbbecbcJeegcbcBbcDhicbbcEcbbbcgbbDxdceb
fJzjbcJwcbbebFoeccebBgkBogceibjgcdBunbcPqhbgbbDewchbcbcEsgdbbcbhbbCucdbbbNjcIBbjUStfChhjeBNvbClrCmcbcYGpebhb
cEUgcbeGYuBucxUydjqchBeeFsdCYdCdeByibobwfbpCAihbrchbcbfKboOebCjeCFwhEfiEBffBSXXpbBeDsEyJg"

/-- The cased letters that are not looked past. -/
def casedRuns : CodeRuns :=
  numbersOf "
CnBagBaBvbkbebfxbBfbHnbeeIabBbHkeccddbbgbbdbbbubDfbFjiGkbBmjBpEFfBmbbfbcBrcdZwDicgDFujhBrcdCmBsClnbBiDxKscgc
BmcgcibbbbbbbBfcCbbhbbddbhdecgenfdbhKbbebckbbdfgbbbbbbebgebceffebrBgdcBFlCaCRuEucDzgedcmBmbbfbBTWcBusBcFeDab
xdebChfcbbbfBbcdbBFpBrfjhDcBEAihmfBNtBagBaBTtDcDsBkeBkEmlbpbhbcblbpbhbcCOpBznBzEKzCmBGIqCmBMLkDhbCtbccbccceb
mbbbhbCnbecibhbBcbebfbbdhbNcczbzbBfbzbBfbzbBfbzbBfbzbiCSykbuDThCqDAaBagBagBa"

/-- Whether the first character that counts is a cased letter. -/
def meetsCased : List Char → Bool
  | [] => false
  | c :: rest =>
    if inRuns ignorableRuns c.toNat then meetsCased rest else inRuns casedRuns c.toNat

/-- Whether a character is the last of its word, given the characters before it, nearest first, and
behind it. -/
def endsWord (before after : List Char) : Bool := meetsCased before && !meetsCased after

end PromptChain.Text
