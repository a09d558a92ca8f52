/-
**Identifiers.**

An identifier starts with a letter, a letter-like number or the low line, and goes on with those,
with digits and with combining marks. Group names of regular expressions are identifiers
(`isIdentifier`). The tables hold only how the two classes differ from the letters.
-/

import PromptChain.Text.Letters

namespace PromptChain.Text

def identifierStartExtra : CodeRanges :=
  [(0x5f, 0x5f), (0x16ee, 0x16f0), (0x1885, 0x1886), (0x2118, 0x2118), (0x212e, 0x212e),
   (0x2160, 0x2182), (0x2185, 0x2188), (0x3007, 0x3007), (0x3021, 0x3029), (0x3038, 0x303a),
   (0xa6e6, 0xa6ef), (0x10140, 0x10174), (0x10341, 0x10341), (0x1034a, 0x1034a), (0x103d1, 0x103d5),
   (0x12400, 0x1246e)]

def identifierStartMissing : CodeRanges :=
  [(0x37a, 0x37a), (0xe33, 0xe33), (0xeb3, 0xeb3), (0x2e2f, 0x2e2f), (0xfc5e, 0xfc63),
   (0xfdfa, 0xfdfb), (0xfe70, 0xfe70), (0xfe72, 0xfe72), (0xfe74, 0xfe74), (0xfe76, 0xfe76),
   (0xfe78, 0xfe78), (0xfe7a, 0xfe7a), (0xfe7c, 0xfe7c), (0xfe7e, 0xfe7e), (0xff9e, 0xff9f)]

/-- Characters that continue an identifier and cannot start one. -/
def identifierContinueRuns : CodeRuns :=
  numbersOf "
BwkEvbWmEixbJrfKfBtbbbcbcbbCulBwBfgbDxhcgccbeckxbBeBbDnlpkBhjjbyebjbdbfBrdCiiBqybBhCcdbsbhkcckrdCebbhcccdjbk
cckobcdCebbfeccddbumdbldCebbibdbducckkgbdCebbhcccdhdkccksbChfddbejbokqfCdbbhbdbehclcckrdCebbhbdbehclcckqeCdc
bhbdbejbkcckrdCsbegbbbigkccCjbbimibkDjbbklgckCkcgklbbbbbecBxubcflbBkjbDwubkmeedbdchdenmbpBBbdjjBJseBcdBdcBec
CmBgjbckBhdblFnbEomemkkEylCifCfkbBdclgkwobqBxfBvrlkrjmdBenckBsoBwuikgkEodbvebgbcdHqCmWdctbEtnebdmEOcdFlbDsBg
VigEbcBSNdkCrbekBgcDccKmbdbebxfebDfcByskkgsnlBciznBseBvopklbkkBvombicckBhdBybbdccfcbbBpffcJcibcckBDZgbBCjqqq
dcydHkkBlbDqcXhbIsbFtfLhkCApdbcfeBodebGjcWbeikOfcFxlBxeEsdCbpBflcckeBtlhbBtkgdBkobkfcBsbmdBwoiebmDemgbGemfkg
eCdcbhcccdjbkcchdfHksjkebDdumkIfhcjBbcDerpkDdnikDfpekJipGjkCsgbccebbbcmkEphchdbBckBohbeibjlBuqPpibiqkCewboEs
gdbbcbhbbikBwfbcbfikMreBCOnkDikBmfChhzkBMzbbCdheDdblcBDAxcGYzBucxUwfdgiichBeeFsdCCnByTsCdeByibobwfbpCAihbrch
bcbfKbhjkNsbCjoCFmhEfhfkHBakBSVGwJg"

def isIdentifierStart (code : Nat) : Bool :=
  if code < 128 then code == 0x5f || isLetterCode code
  else
    (isLetterCode code && !inRanges identifierStartMissing code)
      || inRanges identifierStartExtra code

/-- Whether a character can stand after the first one of an identifier. -/
def isIdentifierContinue (code : Nat) : Bool :=
  if code < 128 then isWordCode code
  else isIdentifierStart code || inRuns identifierContinueRuns code

def isIdentifier : List Char → Bool
  | [] => false
  | first :: rest =>
    isIdentifierStart first.toNat && rest.all fun c => isIdentifierContinue c.toNat

end PromptChain.Text
