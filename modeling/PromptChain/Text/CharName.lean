/-
**Characters by name.**

Names stand in tables, in which letter case does not count: those of the western alphabets, of punctuation
and of some signs. Whoever needs more of them brings a table of their own.
-/

namespace PromptChain.Text

/-! ### Tables -/

/-- The names of control characters. -/
def controlNames : Nat × String := (0x0, "
zNULaNULLzSOHaSTART OF HEADINGzSTART OF TEXTaSTXzEND OF TEXTaETXzEND OF TRANSMISSIONaEOTzENQaENQUIRYzACK
aACKNOWLEDGEzALERTaBELzBACKSPACEaBSzCHARACTER TABULATIONzHORIZONTAL TABULATIONzHTaTABzEND OF LINEzEOLzLF
zLINE FEEDzNEW LINEaNLzLINE TABULATIONzVERTICAL TABULATIONaVTzFFaFORM FEEDzCARRIAGE RETURNaCR
zLOCKING-SHIFT ONEzSHIFT OUTaSOzLOCKING-SHIFT ZEROzSHIFT INaSIzDATA LINK ESCAPEaDLEzDC1aDEVICE CONTROL ONE
zDC2cTWOzDC3cTHREEzDC4cFOURzNAKaNEGATIVE ACKNOWLEDGEzSYNaSYNCHRONOUS IDLEzEND OF TRANSMISSION BLOCKaETBzCAN
aCANCELzEND OF MEDIUMaEOMzSUBaSUBSTITUTEzESCaESCAPEzFILE SEPARATORzFSaINFORMATION SEPARATOR FOUR
zGROUP SEPARATORzGScTHREEzINFORMATION SEPARATOR TWOzRECORD SEPARATORaRSzINFORMATION SEPARATOR ONE
zUNIT SEPARATORaUS")

/-- The names of the basic letters and signs. -/
def basicNames : Nat × String := (0x20, "
zSPaSPACEaEXCLAMATION MARKaQUOTATION MARKaNUMBER SIGNaDOLLAR SIGNaPERCENT SIGNaAMPERSANDaAPOSTROPHE
aLEFT PARENTHESISaRIGHT PARENTHESISaASTERISKaPLUS SIGNaCOMMAaHYPHEN-MINUSaFULL STOPaSOLIDUSaDIGIT ZERObONE
bTWObTHREEbFOURbFIVEbSIXbSEVENbEIGHTbNINEaCOLONaSEMICOLONaLESS-THAN SIGNaEQUALS SIGNaGREATER-THAN SIGN
aQUESTION MARKaCOMMERCIAL ATaLATIN CAPITAL LETTER AdBdCdDdEdFdGdHdIdJdKdLdMdNdOdPdQdRdSdTdUdVdWdXdYdZ
aLEFT SQUARE BRACKETaREVERSE SOLIDUSaRIGHT SQUARE BRACKETaCIRCUMFLEX ACCENTaLOW LINEaGRAVE ACCENT
aLATIN SMALL LETTER AdBdCdDdEdFdGdHdIdJdKdLdMdNdOdPdQdRdSdTdUdVdWdXdYdZaLEFT CURLY BRACKETaVERTICAL LINE
aRIGHT CURLY BRACKETaTILDEzDELaDELETE")

/-- The names of the letters with marks and the signs of western languages. -/
def westernNames : Nat × String := (0xa0, "
zNBSPaNO-BREAK SPACEaINVERTED EXCLAMATION MARKaCENT SIGNaPOUND SIGNaCURRENCY SIGNaYEN SIGNaBROKEN BAR
aSECTION SIGNaDIAERESISaCOPYRIGHT SIGNaFEMININE ORDINAL INDICATORaLEFT-POINTING DOUBLE ANGLE QUOTATION MARK
aNOT SIGNzSHYaSOFT HYPHENaREGISTERED SIGNaMACRONaDEGREE SIGNaPLUS-MINUS SIGNaSUPERSCRIPT TWObTHREE
aACUTE ACCENTaMICRO SIGNaPILCROW SIGNaMIDDLE DOTaCEDILLAaSUPERSCRIPT ONEaMASCULINE ORDINAL INDICATOR
aRIGHT-POINTING DOUBLE ANGLE QUOTATION MARKaVULGAR FRACTION ONE QUARTERdHALFcTHREE QUARTERS
aINVERTED QUESTION MARKaLATIN CAPITAL LETTER A WITH GRAVEfACUTEfCIRCUMFLEXfTILDEfDIAERESISfRING ABOVEdAE
dC WITH CEDILLAdE WITH GRAVEfACUTEfCIRCUMFLEXfDIAERESISdI WITH GRAVEfACUTEfCIRCUMFLEXfDIAERESISdETH
dN WITH TILDEdO WITH GRAVEfACUTEfCIRCUMFLEXfTILDEfDIAERESISaMULTIPLICATION SIGN
aLATIN CAPITAL LETTER O WITH STROKEdU WITH GRAVEfACUTEfCIRCUMFLEXfDIAERESISdY WITH ACUTEdTHORN
bSMALL LETTER SHARP SdA WITH GRAVEfACUTEfCIRCUMFLEXfTILDEfDIAERESISfRING ABOVEdAEdC WITH CEDILLA
dE WITH GRAVEfACUTEfCIRCUMFLEXfDIAERESISdI WITH GRAVEfACUTEfCIRCUMFLEXfDIAERESISdETHdN WITH TILDE
dO WITH GRAVEfACUTEfCIRCUMFLEXfTILDEfDIAERESISaDIVISION SIGNaLATIN SMALL LETTER O WITH STROKEdU WITH GRAVE
fACUTEfCIRCUMFLEXfDIAERESISdY WITH ACUTEdTHORNdY WITH DIAERESIS")

/-- The names of Greek letters. -/
def greekNames : Nat × String := (0x391, "
aGREEK CAPITAL LETTER ALPHAdBETAdGAMMAdDELTAdEPSILONdZETAdETAdTHETAdIOTAdKAPPAdLAMDAdMUdNUdXIdOMICRONdPI
dRHO=1dSIGMAdTAUdUPSILONdPHIdCHIdPSIdOMEGAdIOTA WITH DIALYTIKAdUPSILON WITH DIALYTIKA
bSMALL LETTER ALPHA WITH TONOSdEPSILON WITH TONOSdETA WITH TONOSdIOTA WITH TONOS
dUPSILON WITH DIALYTIKA AND TONOSdALPHAdBETAdGAMMAdDELTAdEPSILONdZETAdETAdTHETAdIOTAdKAPPAdLAMDAdMUdNUdXI
dOMICRONdPIdRHOdFINAL SIGMAdSIGMAdTAUdUPSILONdPHIdCHIdPSIdOMEGA")

/-- The names of Cyrillic letters. -/
def cyrillicNames : Nat × String := (0x410, "
aCYRILLIC CAPITAL LETTER AdBEdVEdGHEdDEdIEdZHEdZEdIdSHORT IdKAdELdEMdENdOdPEdERdESdTEdUdEFdHAdTSEdCHEdSHA
dSHCHAdHARD SIGNdYERUdSOFT SIGNdEdYUdYAbSMALL LETTER AdBEdVEdGHEdDEdIEdZHEdZEdIdSHORT IdKAdELdEMdENdOdPEdER
dESdTEdUdEFdHAdTSEdCHEdSHAdSHCHAdHARD SIGNdYERUdSOFT SIGNdEdYUdYA")

/-- The names of spaces, dashes, quotation marks and other punctuation. -/
def punctuationNames : Nat × String := (0x2000, "
aEN QUADaEM QUADaEN SPACEaEM SPACEaTHREE-PER-EM SPACEaFOUR-PER-EM SPACEaSIX-PER-EM SPACEaFIGURE SPACE
aPUNCTUATION SPACEaTHIN SPACEaHAIR SPACEzZWSPaZERO WIDTH SPACEzZWNJcNON-JOINERzZWJcJOINERzLRM
aLEFT-TO-RIGHT MARKzRLMaRIGHT-TO-LEFT MARK
aHYPHENaNON-BREAKING HYPHENaFIGURE DASHaEN DASHaEM DASHaHORIZONTAL BARaDOUBLE VERTICAL LINEbLOW LINE
aLEFT SINGLE QUOTATION MARKaRIGHT SINGLE QUOTATION MARKaSINGLE LOW-9 QUOTATION MARK
bHIGH-REVERSED-9 QUOTATION MARKaLEFT DOUBLE QUOTATION MARKaRIGHT DOUBLE QUOTATION MARK
aDOUBLE LOW-9 QUOTATION MARKbHIGH-REVERSED-9 QUOTATION MARKaDAGGERaDOUBLE DAGGERaBULLETaTRIANGULAR BULLET
aONE DOT LEADERaTWO DOT LEADERaHORIZONTAL ELLIPSISaHYPHENATION POINTaLINE SEPARATORaPARAGRAPH SEPARATORzLRE
aLEFT-TO-RIGHT EMBEDDINGzRLEaRIGHT-TO-LEFT EMBEDDINGzPDFaPOP DIRECTIONAL FORMATTINGzLRO
aLEFT-TO-RIGHT OVERRIDEzRLOaRIGHT-TO-LEFT OVERRIDEzNNBSPaNARROW NO-BREAK SPACEaPER MILLE SIGN
bTEN THOUSAND SIGNaPRIMEaDOUBLE PRIMEaTRIPLE PRIMEaREVERSED PRIMEbDOUBLE PRIMEbTRIPLE PRIMEaCARET
aSINGLE LEFT-POINTING ANGLE QUOTATION MARKbRIGHT-POINTING ANGLE QUOTATION MARK")

/-- The names of arrows and other signs. -/
def signNames : Nat × String := (0x20ac, "
aEURO SIGN=117aTRADE MARK SIGN=109aLEFTWARDS ARROWaUPWARDS ARROWaRIGHTWARDS ARROWaDOWNWARDS ARROW=138
aINFINITY=65aNOT EQUAL TO=3aLESS-THAN OR EQUAL TOaGREATER-THAN OR EQUAL TO=925aSNOWMAN=271aCHECK MARK=118508
aGRINNING FACE")

/-- All tables, each with the code of its first character. -/
def nameTables : List (Nat × String) :=
  [controlNames, basicNames, westernNames, greekNames, cyrillicNames, punctuationNames, signNames]

/-- The words of a name. -/
def wordsOf (text : List Char) : List (List Char) :=
  match text with
  | [] => [[]]
  | c :: rest =>
    match c == ' ', wordsOf rest with
    | true, words => [] :: words
    | false, word :: words => (c :: word) :: words
    | false, [] => [[c]]

/-- The names of a table as they are written: small letters with what follows each. -/
def writtenNames (text : List Char) : List (Char × List Char) :=
  (text.foldr (fun c (pending, names) =>
      if c.isLower then ([], (c, pending) :: names) else (c :: pending, names))
    (([] : List Char), ([] : List (Char × List Char)))).2

/-- The code of a name, given in words, within a table that goes on at a code, behind a name. A small letter
says how many words a name shares with the one before: none for the letter a. The number behind a name says
how many codes have none. The letter z marks a further name of the character that comes next. -/
def codeInTable? (wanted : List (List Char)) (code : Nat) (before : List (List Char)) :
    List (Char × List Char) → Option Nat
  | [] => none
  | (shared, written) :: rest =>
    let words := wordsOf (written.takeWhile (· != '='))
    if shared = 'z' then if words = wanted then some code else codeInTable? wanted code before rest
    else
      let name := before.take (shared.toNat - 'a'.toNat) ++ words
      let gap := (String.ofList ((written.dropWhile (· != '=')).drop 1)).toNat?.getD 0
      if name = wanted then some code else codeInTable? wanted (code + 1 + gap) name rest

/-- The code of the character of a name. -/
def charNamed? (name : String) : Option Nat :=
  nameTables.findSome? fun (first, names) =>
    codeInTable? (wordsOf (name.toList.map Char.toUpper)) first []
      (writtenNames (names.toList.filter (· != '\n')))

end PromptChain.Text
