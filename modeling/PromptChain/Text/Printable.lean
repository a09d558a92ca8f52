/-
**Printable characters.**

Everything is printable but controls, format characters, surrogates, private and unassigned code
points, and separators other than the plain space.
-/

import PromptChain.Text.CodeRanges

namespace PromptChain.Text

def printableRuns : CodeRuns :=
  numbersOf "
BgDrBimbBBmcgehbbbubPhbBmcBycdbCdiBbegrwbHkbBwcChcDxoChcBxcpbBccbblfBfjCwbGfbicccwbhbbdecjccceibecbfczcdbgec
cwbhbcbcbccbbfeccddbhebbhrkdbjbdbwbhbcbfckbdbdcbpecmhhbdbicccwbhbcbfcjcccdhdecbfcskcbgddbedcbbbcdcdddmefddbe
cbgbovfnbdbxbqcjbdbehcbdcbceckhwbdbxbkbfcjbdbehcgcbeckbcnnbdbBzbdbgeqcBabdbsdybjbbchdbegbbbigkcdmCgeBdBlcbbb
fbybbbxcfbbbgckceBgCubBkeBnbBkbpbnBlHqbbfbcOnbechbbbecBpbecBhbechbbbecpbCfbecCpcBgdBagDicgcYqbBcdDlhwjyjumnb
dbcmDqckgkgoblgDlhBrfCskBfbmemebdBqcflBseBagldCkcCnbBdclgkgocBfBxCzdBvbEmiCidpdCihBrcliBrfUocgcBmcgcibbbbbbb
BfcCbbpbocgbtcdbjryiBvrccBbbndBhpBhpFkeZnzlvCRscBgbNlfBtbbfbcCehcoyjhbhbhbhbhbhbhbhbEwBiBabDlmIgBamfClbDicDz
fBrbDqbDgmBvbBRIrdCdjNkuHciHvfcbbbfyChdkgCeiCsimgEmlBedDableBhbCdjockcDzyBckgcgcgjhbhbCieEwckgQNsmxeBxMNcOcc
EcBmhmffBabfbbbcbcbEvqRdcCchbBgBqgBzbtbeefbFfeHidgcgcgcddhbhnccmbBabtbcbpcoBiEtfdeBtdDkbndbBvBuFaBddBxpBceBk
jBefBrfBebBleoBqGcckgBkeBkeBoiCalmbpbhbcblbpbhbcCpLzjwkiygbBqbjCrgcbbBsbcdbcxbCuijBwtbcfBhdBbfbCmCeeucBybcfi
bdbBdcdekhjhCmBgBnemjCcdBdcBbfBahemhDcCvCdBznBzhBuikLiBfbBqbdccDaBoiBqwBaBmBcuxjDaeBkjCkbfnzhkgCbbsiBnjDsbul
sbBsCnhbbbebpblgChfkgebicccwbhbcbfbkcccdcbgbfhchdfFjDobfBeCuikGkCccBmBiCrlkgntCggkCcBbcpexHdCiDwDfmicbcibcbB
ebccmjkCsicBuclBbCuiDfnCvKdjbBtbokBddBgcwboCvhbcbBsdbbcbjikggbcbBlbcbghkLyzHbbpBynBJnDyEhbflHoDXkDvnBPfFZtWl
MUbVxhBfbkeDdbkgBecgkCskkbhbvftBAmDnDxCxeCfhrCmflcoJCaiBVqBqjNFrebhbcbLfBtdreiPgDKuEdfndjhkceGYyBucxjEmCiJmk
BncCwiEivCsFyumDjjzFfDhbCtbccbcccebmbbbhbCnbecibhbBcbebfbbdhbNccLgcBBapfbpBQmBfIrhbrchbcbfIfBtdockecMiBfrCgf
bBWahbebcbpbHpcqBpCyekecBEfCqCyCjHmebBbbcbbcbbkbebbbbgbebbbbbbdbcbbcbbbbbbbbbbcbbcebhbebebbbkbrfdbfbrCacKkBs
eDwmpcpbpbBlkGsCeBdnBsejhcogFyBLwfqdndEmmDlhmebpmeCeikgBoiBeccDaNcmocfdfdhjBddlfgkkgiihjFrbCdBlkBNqCLFcBgGDt
hIocINqoLBlEPjUwCFyHHzBOTMrJg"

/-- Whether a character is printable; below 128 the table is not needed. -/
def isPrintable (c : Char) : Bool :=
  if c.toNat < 128 then 0x20 ≤ c.toNat && c.toNat < 0x7f
  else inRuns printableRuns c.toNat

end PromptChain.Text
