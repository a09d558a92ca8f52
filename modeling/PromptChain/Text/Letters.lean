/-
**Letters, numeric characters and word characters.**

A letter has general category `L`; a numeric character has a numeric value (digits, fractions,
letter-like numbers, ideographs that write numbers are letters already). Both tables are those of
version 14 of the Unicode standard.
-/

import PromptChain.Text.CodeRanges

namespace PromptChain.Text

def letterRuns : CodeRuns :=
  numbersOf "
CnBagBaBvbkbebfxbBfbRqemofhbbbEzfbccebbgbbdbbbubDfbFjiGkbBmcbgBpCtBbeeBtBrBjcbDvbbpchckdcbqbbBeBdDllbyBhjceb
fwebjbdbxzhlfybgrBqCgCcdbsbhkpqeicccwbhbbdedbqbncbdockbigeccwbhbcbcbcBfebbtdqjbdbwbhbcbfdbsbpcxblicccwbhbcbf
dbBecbdpbrbbgddbedcbbbcdcdddmwbCaibdbxbqdbBadcbccBebeibdbxbkbfdbBfcbcpcrjbdbBpcbqbfdidygfsdybjbbchCgBwbcmhCg
cbbbfbybbbkbcjbcfbbveBgbClibBkBbfElBrubqgeedbdchdenmbrBmbbfbcBrbMvbechbbbecBpbecBhbechbbbecpbCfbecCpBlqqDicg
dXwcrbBafCxgihsntosonbdpCaBjbebCpDlhfcBibbfCskBfBxBecflBseBaCcxjCbDebDpBvriCcBenckBsBaBkBpdkBkcjhBrcdBpebgbc
dbfHkCmKscgcBmcgcibbbbbbbBfcCbbhbbddbhdecgenfdbhEmbnbqnDxbebckbbdfgbbbbbbeblceffebCacDZfIvgedcmBmbbfbcCehbqx
jhbhbhbhbhbhbhbhDcbSbcBqffceDigdbDmbefBrbDqrBgBwqTsJToCmBGUfCpBucKjdqkcuBvqBfcCsBxjcDzcCmfcbbbfyqbdbebxBdCao
ByCkgdbbclBckxzBdhBvBcbqfbkkfbBpxdbiuxdbdBybbdccfcbbbydclhdmgcgcgjhbhbBrbogElBdQNsmxeBxMNcOccEcBmhmffbbkbnbf
bbbcbcbEeBhNzsCmcCcBomEmfbFfBkBagBalDldgcgcgcdBjmbBabtbcbpcoBiEtOzBddBxBvBgnubigBmkBecBkeiBwGcsBkeBkeBoiCaml
bpbhbcblbpbhbcCpLzjwkiygbBqbjCrgcbbBsbcdbcxkxjBfCntbckwkBaCsCegcCmbpebdbBdBqBddBdBjibBcBbCckwktnsEgCvCdBznBz
nBkNkBqgcDaBdkbiwBqsBuvBbxmCbCfccbnBtBgzBaBkBdbcbiBjdbmBwoevbbbBjsbzDghbbbebpbkhBvBmicccwbhbcbfdbsbmfGcCbseu
dBeBwucbbHcBvBpeBkBwubChBrnbCtBbBlhHdBsEmCmBficbcibcbypbbbDqicBnqbbbBcbkBohbvblButbsCvKdjbBlrbBxBeEihbcbBmvb
zgbcbBgobMptHhbDbBJmIwHoDXkDtpBPfFZtWlMUbVxhBfrDbrBesBwqeBfvftBAmCmEyCxfbConCmcbbBcJCaiBVqBqjNFrebhbcbLfBtdr
eiPgDKuEdfndjhkIWkDhbCtbccbcccebmbbbhbCnbecibhbBcbebfbbdhbNcczbzbBfbzbBfbzbBfbzbBfbzbiCSyBfSnBtkhqbMjBesBsBW
uhbebcbpbHpChCqhbBUiebBbbcbbcbbkbebbbbgbebbbbbbdbcbbcbbbbbbbbbbcbbcebhbebebbbkbrfdbfbrGOaCLFcBgGDthIocINqoLB
lEPjUwCFyHHz"

/-- The characters with a numeric value that are not letters. -/
def numericRuns : CodeRuns :=
  numbersOf "
BwkEqcfbcdCDlkFekHqkPwkEokegEekEokEokcgEgnElkihDzkEahhtEfkDskEokCsuKikCskBBruBHxdJfkgkwkLokEylGjkgkHakDikFek
gkBOgbdggkHqBzcfBByCiDawYgBeCBhbBDxbzjodNfeFikBeibpBgkBnpBRSakHgkMigFykBmkHqkwkDikPqkBFMckSzBtmCfrcNdBbBkeBd
bibFefHukBKgizhBnjCxfwgGeccqcBuCmjCacBedCxfEaiyiBphMsgBwkLiBfGckBqeEihFeBeEykCikFokhuJrkNekEokOkkDykDymQetDp
kBDeBdItkCskUovBPbEhBAMrkDikFekbhBEsxBLZluEezBQrByDNckQgkCFdjEykBElChbdbeCyBtbpBLanEDfk"

/-- Whether a character is a letter; below 128 the table is not needed. -/
def isLetterCode (code : Nat) : Bool :=
  if code < 128 then
    (0x41 ≤ code && code ≤ 0x5a) || (0x61 ≤ code && code ≤ 0x7a)
  else inRuns letterRuns code

def isAlphanumericCode (code : Nat) : Bool :=
  if code < 128 then isLetterCode code || (0x30 ≤ code && code ≤ 0x39)
  else isLetterCode code || inRuns numericRuns code

/-- A word character is alphanumeric or the low line. -/
def isWordCode (code : Nat) : Bool :=
  code == 0x5f || isAlphanumericCode code

def isLetter (c : Char) : Bool := isLetterCode c.toNat

def isAlphanumeric (c : Char) : Bool := isAlphanumericCode c.toNat

end PromptChain.Text
