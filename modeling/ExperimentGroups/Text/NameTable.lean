/-!
# The table of character names

All names of characters that follow no rule, and the other names that the character standard admits,
in alphabetical order. A small letter says how many characters to take from the end of the name
before it: none for the first letter of the alphabet, one for the second. Several of them add up.
What follows is then appended.

## Main definitions

* `Text.nameTable`: the table, cut into pieces of equal length
-/

namespace ExperimentGroups

namespace Text

/-- **The table of character names**, in pieces. -/
def nameTable : List String :=
  ["aABACUSfC CURRENTiCORDIONfUNT OFiKaNOWLEDGEjTIVATE ARABIC FORM SHAPINGtSYMMETRIC SWAPPINGzUT",
    "E ACCENTfNGLEkDDRESSED TO THE SUBJECTwHESIVE BANDAGEoI SHAKTIiLAM ALIF LENGTHENERpCAPITAL LE",
    "TTER ALIFeBAbHEdCHIdDAALIeHAdEbFAcGAbBEdHAcIbJIIMeKAFcHAcPOdLAAMeMIIMeNHAcUNcYAdObPEcQAAFeRA",
    "cSHAcINNYIIYHEkTUcUbVAcWAWdYAbHEdZALrONSONANT MODIFIERsDIGIT EIGHTfFIVEdOUReNINEeONEdSEVENeI",
    "XdTHREEeWOdZEROkGEMINATE CONSONANT MODIFIERuION MARKpHAMZAfINITIAL EXCLAMATION MARKqQUESTION",
    " MARKvNASALIZATION MARKqUKTAfSMALL LETTER ALIFeBAbHEdCHIdDAALIeHAdEbFAcGAbBEdHAcIbJIIMeKAFcH",
    "AcPOdLAAMeMIIMeNHAcUNcYAdObPEcQAAFeRAcSHAcINNYIIYHEkTUcUbVAcWAWdYAbHEdZALqVOWEL LENGTHENERuM",
    "ETOSeISSION TICKETSpULTeEGEAN CHECK MARKkDRY MEASURE FIRST SUBUNITzLIQUID MEASURE FIRST SUBU",
    "NITzdMEASURE SECOND SUBUNIToTHIRD SUBUNITvNUMBER EIGHTa HUNDREDhTHOUSANDjYa THOUSANDpFIFTYa ",
    "THOUSANDmVEa HUNDREDhTHOUSANDmORTYa THOUSANDmURa HUNDREDhTHOUSANDnNINEa HUNDREDhTHOUSANDjTYa",
    " THOUSANDpONEa HUNDREDhTHOUSANDmSEVENa HUNDREDhTHOUSANDjTYa THOUSANDpIXa HUNDREDhTHOUSANDjTY",
    "a THOUSANDoTENa THOUSANDlHIRTYa THOUSANDnREEa HUNDREDhTHOUSANDnWENTYa THOUSANDnOa HUNDREDhTH",
    "OUSANDtWEIGHT BASE UNITjFIRST SUBUNITmOURTH SUBUNIToSECOND SUBUNIToTHIRD SUBUNITtORD SEPARAT",
    "OR DOTdLINEyRIAL TRAMWAYnFGHANI SIGNlHOM CONSONANT SIGN MEDIAL LAbIGATING RAlRAyDIGIT EIGHTf",
    "FIVEdOUReNINEeONEdSEVENeIXdTHREEeWOdZEROkLETTER AaLTERNATE BAcGAcTAmBAbHAdCAbHAdDAbDAbHAdHAd",
    "GAbHAdHAcJAbHAdKAbHAdLAbLAdMAcNAbGAcNAcYAdPAbHAdRAcSAcTAbHAcTAbHAlNUMBER TENcWENTYnSIGN KILL",
    "ERgRULAIfSECTIONgMALL SECTIONrYMBOL VIjVOWEL SIGN AaAbIbMbWcEbIaIcObUaUrIRPLANEa ARRIVINGiDE",
    "PARTURErKTIESELSKABlLARM CLOCKjCHEMICAL SYMBOL FOR AIRcLEMBICfKALIa-2gUMdMALGAMgNTIMONY OREl",
    "QUA REGIAa-2hVITAEa-2iFORTISjRSENICgSHESeURIPIGMENTlBATH OF MARYeVAPOURSoISMUTH OREkLACK SUL",
    "FURlORAXa-2b3gRICKfCADUCEUSgLXcPUT MORTUUMmINNABARhOPPER ANTIMONIATElOREjROCUS OF COPPERa-2i",
    "IRONmUCIBLEa-2b3b4b5kDAY-NIGHTiISSOLVEa-2hTILLhEARTHfFIREeGOLDdUMdHALF DRAMeOUNCEjORSE DUNGi",
    "UReIRON OREa-2g-COPPER OREpLEAD OREhODESTONEjMARCASITEiERCURY SUBLIMATEa-2b3sONTHfNIGHTdTREf",
    "OILdPHILOSOPHERS SULFURsOT ASHEShWDERaED BRICKnRECIPITATEkURIFYeTREFACTIONmQUICK LIMEhNTESSE",
    "NCEmREALGARa-2hGULUSa OF ANTIMONYa-2kIRONi-2b3b4hTORTfOCK SALTa-2lSAL-AMMONIACjTa OF ANTIMON",
    "YiCOPPER ANTIMONIATEzCEPTER OF JOVEoILVERfOAPdPIRITfTARRED TRIDENTnRATUM SUPER STRATUMa-2wUB",
    "LIMATE OF ANTIMONYiCOPPERgSALT OF ANTIMONYiCOPPERtIONjLFURgTARTARa-2hIN OREeCTUREhRIDENTgUTT",
    "YfURINEfVERDIGRISiINEGARa OF ANTIMONYm-2b3hTRIOLa-2jWATERdXxEF SYMBOLiMBICeRTdIEN MONSTERlL ",
    "AROUND-PROFILEoEQUAL TOkMaOST EQUAL OR EQUAL TOlTOa WITH CIRCUMFLEX ACCENTzlTERNATE ONE-WAY ",
    "LEFT WAY TRAFFICzbIVE KEY SYMBOLvMALGAMATION OR COPRODUCTxBULANCEhERICAN FOOTBALLpPERSANDgHO",
    "RAgNATOLIAN HIEROGLYPH A001b2b3b4b5b6b7b8b9c10aAc1b2b3b4b5b6b7b8b9c20b1b2b3b4b5b6aAc7b8b9c30",
    "b1b2b3b4b5b6b7b8b9aAd40b1aAc2b3b4b5aAc6aAbBc7b8b9c50b1b2b3b4b5b6b7b8b9c60b1b2b3b4b5b6aAbBbCc",
    "7b8b9c70b1b2b3b4b5b6b7b8b9c80b1b2b3b4b5b6b7b8b9c90b1b2b3b4b5b6b7aAc8aAc9d100aAc1aAc2aAc3b4aA",
    "bBbCc5aAbBc6b7aAbBbCc8b9c10aAbBc1b2b3b4b5aAc6b7b8b9c20b1b2b3b4b5aAc6b7b8b9c30b1b2b3b4b5aAc6b",
    "7b8b9c40b1b2b3b4b5b6b7b8b9c50b1b2b3b4b5b6b7b8b9c60b1b2b3b4b5b6b7b8b9c70b1b2b3b4b5b6b7b8b9c80",
    "b1b2b3b4b5b6b7b8b9c90b1b2b3b4b5b6b7b8b9d200b1b2aAbBc3b4b5b6b7aAc8b9aAd10b1b2b3b4b5aAc6aAc7b8",
    "b9c20b1b2b3b4b5b6b7aAc8b9c30b1b2b3b4b5b6b7b8b9c40b1b2b3b4b5b6b7b8b9c50b1b2b3b4b5b6b7b8b9c60b",
    "1b2b3b4b5b6b7aAc8b9c70b1b2b3b4b5b6b7b8b9c80b1b2b3b4b5b6b7b8b9aAd90b1b2b3b4aAc5b6b7b8b9aAe300",
    "b1b2b3b4b5b6b7b8b9aAd10b1b2b3b4b5b6b7b8b9c20b1b2b3b4b5b6b7b8b9aAd30b1b2AbBbCc3b4b5b6aAbBbCc7",
    "b8b9c40b1b2b3b4b5b6b7b8b9c50b1b2b3b4b5b6b7b8b9aAd60b1b2b3b4aAc5b6b7b8aAc9c70b1aAc2b3b4b5b6b7",
    "b8b9c80b1aAc2b3 RA OR RIjAc4b5b6aAc7b8b9c90b1b2b3 EIGHTh4b5b6b7b8b9d400b1b2b3b4b5b6b7b8b9c10",
    " BEGIN LOGOGRAM MARKuA END LOGOGRAM MARKu1b2b3b4b5b6b7b8b9c20b1b2b3b4b5b6b7b8b9c30b1b2b3b4b5",
    "b6b7b8b9c40b1b2b3b4b5b6b7b8b9c50aAc1b2b3b4b5b6b7aAc8b9c60b1b2b3b4b5b6b7b8b9c70b1b2b3b4b5b6b7",
    "b8b9c80b1b2b3b4b5b6b7b8b9c90b1b2b3b4b5b6b7d501b2b3b4b5b6b7b8b9c10b1b2b3b4b5b6b7b8b9c20b1b2b3",
    "b4b5b6b7b8b9c30uMICAL HEARToCHOReD WITH DOTkGER SYMBOLjLEa WITH S INSIDEiUNDERBARqRY FACEhST",
    "ROM SIGNkUISHED FACEmKHcTaENNA WITH BARSoICLOCKWISE CLOSED CIRCLE ARROWsONTOUR INTEGRALqDOWN",
    "WARDS AND UPWARDS OPEN CIRCLE ARROWSzpGAPPED CIRCLE ARROWtINTEGRATIONlOPEN CIRCLE ARROWrTOP ",
    "SEMICIRCLE ARROWtRIANGLE-HEADED BOTTOM U-SHAPED ARROWvLEFT U-SHAPED ARROWtOPEN CIRCLE ARROWr",
    "RIGHT U-SHAPED ARROWuTOP U-SHAPED ARROWzwPCbL FUNCTIONAL SYMBOL ALPHAa UNDERBARoBACKSLASH BA",
    "RnCIRCLE BACKSLASHjDIAERESISjJOTdSTARcILEfUNDERBARoOMMA BARjDEL DIAERESISjSTILEfTILDEgTA STI",
    "LEfUNDERBARnIAMOND UNDERBARpOWN CARET TILDElSHOE STILEkTACK JOTdUNDERBARoWARDS VANEoEPSILON ",
    "UNDERBARqGREATER-THAN DIAERESISwI-BEAMfOTAa UNDERBARnJOT DIAERESISjUNDERBARmLEFT SHOE STILEl",
    "WARDS VANEoOMEGAa UNDERBARoQUADa BACKSLASHjCIRCLEfOLONfDELaTAeIAMONDfVIDEfOWN CARETgWARDS AR",
    "ROWpEQUALfGREATER-THANmJOTdLEFTWARDS ARROWnSS-THANjNOT EQUALjQUESTIONiRIGHTWARDS ARROWqSLASH",
    "fUP CARETgWARDS ARROWqOTE QUADeUNDERBARoRHOcIGHTWARDS VANEpSEMICOLON UNDERBARrLASH BARiQUISH",
    " QUADkTAR DIAERESISmILE TILDElTILDE DIAERESISpUP CARET TILDElSHOE JOTiTACK DIAERESISjJOTdOVE",
    "RBARnWARDS VANEmZILDEzOLLONeSTROPHEiPLICATION PROGRAM COMMANDyROACHES THE LIMITpXIMATELY BUT",
    " NOT ACTUALLY EQUAL TOzEQUAL OR EQUAL TOlTOa OR THE IMAGE OFzmQUARIUShRABIC BASELINE ROUND D",
    "OTsCOMMAeURLY DAMMAaTANiFATHAaTANiKASRAaTANoDAMMAa ISOLATED FORMnMEDIAL FORMlWITH DOTjTANa I",
    "SOLATED FORMuTE SEPARATORnECIMAL SEPARATORqISPUTED END OF AYAHtOUBLE RIGHT ARROWHEAD ABOVEa ",
    "WITH DOTzgD MADDAnEMPTY CENTRE HIGH STOPjLOW STOPuND OF AYAHeTEXT MARKqFATHAa ISOLATED FORMn",
    "MEDIAL FORMlWITH DOT ABOVEjRINGeTWO DOTSoTANa ISOLATED FORMvIVE POINTED STARqOOTNOTE MARKERo",
    "ULL STOPjHALF MADDA OVER MADDAtMZA ABOVEfBELOWlINVERTED DAMMAoKASRAa ISOLATED FORMnMEDIAL FO",
    "RMlWITH DOT BELOWpTANa ISOLATED FORMwLARGE CIRCLE BELOWmROUND DOT ABOVEfBELOWfINSIDE CIRCLE ",
    "BELOWzjEFT ARROWHEAD ABOVEfBELOWsTTER AEbFRICAN FEHdNOONeQAFa WITH THREE DOTS ABOVEzhINa FIN",
    "AL FORMkINITIAL FORMlSOLATED FORMnMEDIAL FORMlWITH THREE DOTS ABOVEfBELOWfPOINTING DOWNWARDS",
    " ABOVEzjWO DOTS ABOVEfVERTICALLY ABOVEziLEFa FINAL FORMkISOLATED FORMnMAKSURAa FINAL FORMkIS",
    "OLATED FORMvWASLAa FINAL FORMkISOLATED FORMsITH ATTACHED BOTTOM RIGHT KASRAa AND DOT ABOVEjL",
    "EFT RINGzhFATHAfKASRAfLEFT HAMZAfROUND DOToRIGHT HAMZAfROUND DOToOUND DOT ABOVEfBELOWpTOP RI",
    "GHT FATHAa AND DOT ABOVEjLEFT RINGznDOT ABOVEjEXTENDED ARABIC-INDIC DIGIT THREE ABOVEkWO ABO",
    "VEzmHAMZA ABOVEa FINAL FORMkISOLATED FORMtBELOWa FINAL FORMkISOLATED FORMzLEFT MIDDLE STROKE",
    "sMADDA ABOVEa FINAL FORMkISOLATED FORMzRIGHT MIDDLE STROKEa AND DOT ABOVEjLEFT RINGziWAVY HA",
    "MZA ABOVEfBELOWzbBEEHa FINAL FORMkINITIAL FORMlSOLATED FORMnMEDIAL FORMoHa FINAL FORMkINITIA",
    "L FORMlSOLATED FORMnMEDIAL FORMlWITH DOT BELOW AND THREE DOTS ABOVEzfHAMZA ABOVElINVERTED SM",
    "ALL V BELOWwSMALL MEEM ABOVEkVa BELOWnTHREE DOTS HORIZONTALLY BELOWsPOINTING UPWARDS BELOWa ",
    "AND TWO DOTS ABOVEzzbWO DOTS BELOW AND DOT ABOVEzjEHa FINAL FORMkINITIAL FORMlSOLATED FORMnM",
    "EDIAL FORMrDADa FINAL FORMkINITIAL FORMlSOLATED FORMnMEDIAL FORMlWITH DOT BELOWqHALa FINAL F",
    "ORMkISOLATED FORMrLa FINAL FORMkISOLATED FORMnWITH DOT BELOWa AND SMALL TAHxFOUR DOTS ABOVEp",
    "INVERTED SMALL V BELOWnVkRINGeTHREE DOTS ABOVE DOWNWARDSpBELOWpWO DOTS VERTICALLY BELOW AND ",
    "SMALL TAHzwDAHALa FINAL FORMkISOLATED FORMrLa FINAL FORMkISOLATED FORMrOTLESS BEHdFEHdQAFkUL",
    "a FINAL FORMkISOLATED FORMqYEHa FINAL FORMkINITIAL FORMlSOLATED FORMnMEDIAL FORMqEa FINAL FO",
    "RMkINITIAL FORMlSOLATED FORMnMEDIAL FORMnFARSI YEHa FINAL FORMkINITIAL FORMlSOLATED FORMnMED",
    "IAL FORMlWITH EXTENDED ARABIC-INDIC DIGIT FOUR BELOWkTHREE ABOVEkWO ABOVEzmINVERTED VkTHREE ",
    "DOTS ABOVEpWO DOTS ABOVEzdEHa FINAL FORMkINITIAL FORMlSOLATED FORMnMEDIAL FORMlWITH DOT BELO",
    "Wa AND THREE DOTS ABOVEzbMOVED BELOWpTHREE DOTS BELOWfPOINTING UPWARDS BELOWzhWO DOTS BELOWx",
    "GAFa FINAL FORMkINITIAL FORMlSOLATED FORMnMEDIAL FORMlWITH INVERTED STROKEpRINGeTHREE DOTS A",
    "BOVEpWO DOTS BELOWwHAINa FINAL FORMkINITIAL FORMlSOLATED FORMnMEDIAL FORMlWITH DOT BELOWjTHR",
    "EE DOTS ABOVEzbRAFdUEHa FINAL FORMkINITIAL FORMlSOLATED FORMnMEDIAL FORMqHAHa FINAL FORMkINI",
    "TIAL FORMlSOLATED FORMnMEDIAL FORMlWITH EXTENDED ARABIC-INDIC DIGIT FOUR BELOWznHAMZA ABOVEl",
    "INVERTED SMALL V BELOWwSMALL ARABIC LETTER TAH ABOVEeND TWO DOTSmBELOWzeTHREE DOTS ABOVEfPOI",
    "NTING UPWARDS BELOWzhWO DOTS ABOVEfVERTICAL ABOVEzfMZAa ISOLATED FORMsEHa DOACHASHMEEa FINAL",
    " FORMkINITIAL FORMlSOLATED FORMnMEDIAL FORMxFINAL FORMkGOALa FINAL FORMkINITIAL FORMlSOLATED",
    " FORMnMEDIAL FORMlWITH HAMZA ABOVEvINITIAL FORMlSOLATED FORMnMEDIAL FORMlWITH INVERTED VkYEH",
    " ABOVEa FINAL FORMkISOLATED FORMzgIGH HAMZAa ALEFeWAWdYEHoJEEMa FINAL FORMkINITIAL FORMlSOLA",
    "TED FORMnMEDIAL FORMlWITH THREE DOTS ABOVEfBELOWpWO DOTS ABOVEwHa FINAL FORMkISOLATED FORMrK",
    "AFa FINAL FORMkINITIAL FORMlSOLATED FORMnMEDIAL FORMlWITH DOT ABOVEfBELOWjRINGeTHREE DOTS BE",
    "LOWpWO DOTS ABOVEvSHMIRI YEHlEHEHa FINAL FORMkINITIAL FORMlSOLATED FORMnMEDIAL FORMlWITH DOT",
    " ABOVEjSMALL VhTHREE DOTS ABOVEfBELOWfPOINTING UPWARDS BELOWzhWO DOTS ABOVEfVERTICALLY BELOW",
    "zkHAHa FINAL FORMkINITIAL FORMlSOLATED FORMnMEDIAL FORMpIRGHIZ OEa FINAL FORMkISOLATED FORMq",
    "YUa FINAL FORMkISOLATED FORMyLAMa FINAL FORMkINITIAL FORMlSOLATED FORMnMEDIAL FORMlWITH BARd",
    "DOT ABOVEhUBLE BARkSMALL ARABIC LETTER TAH ABOVExVhTHREE DOTS ABOVEfBELOWyOW ALEFiMARKdEEMa ",
    "FINAL FORMkINITIAL FORMlSOLATED FORMnMEDIAL FORMlWITH DOT ABOVEfBELOWjTHREE DOTS ABOVEzbNGa ",
    "FINAL FORMkINITIAL FORMlSOLATED FORMnMEDIAL FORMmOEHa FINAL FORMkINITIAL FORMlSOLATED FORMnM",
    "EDIAL FORMqOONa FINAL FORMkGHUNNAa FINAL FORMkISOLATED FORMuINITIAL FORMlSOLATED FORMnMEDIAL",
    " FORMlWITH DOT BELOWjINVERTED SMALL VqRINGeSMALL TAHdVhTHREE DOTS ABOVEpWO DOTS BELOWxYEHa F",
    "INAL FORMkINITIAL FORMlSOLATED FORMnMEDIAL FORMqOEa FINAL FORMkISOLATED FORMqPEHa FINAL FORM",
    "kINITIAL FORMlSOLATED FORMnMEDIAL FORMlWITH SMALL MEEM ABOVEkVnEHa FINAL FORMkINITIAL FORMlS",
    "OLATED FORMnMEDIAL FORMrQAFa FINAL FORMkINITIAL FORMlSOLATED FORMnMEDIAL FORMlWITH DOT ABOVE",
    "fBELOWa AND NO DOTS ABOVEzcTHREE DOTS ABOVEzREHa FINAL FORMkISOLATED FORMnWITH DOT BELOWa AN",
    "D DOT ABOVExFOUR DOTS ABOVEpHAMZA ABOVElINVERTED VkLOOPeRINGeSMALL ARABIC LETTER TAH AND TWO",
    " DOTSzfNOON ABOVEkVa BELOWmTROKEgTWO DOTS ABOVEfVERTICALLY ABOVEziNOONa FINAL FORMkINITIAL F",
    "ORMlSOLATED FORMnMEDIAL FORMqOHINGYA YEHlREHa FINAL FORMkISOLATED FORMsSADa FINAL FORMkINITI",
    "AL FORMlSOLATED FORMnMEDIAL FORMlWITH THREE DOTS ABOVEfBELOWpWO DOTS BELOWwEENa FINAL FORMkI",
    "NITIAL FORMlSOLATED FORMnMEDIAL FORMlWITH DOT BELOW AND DOT ABOVExEXTENDED ARABIC-INDIC DIGI",
    "T FOUR ABOVEznFOUR DOTS ABOVEpINVERTED VkSMALL ARABIC LETTER TAH AND TWO DOTSzlTHREE DOTS BE",
    "LOWa AND THREE DOTS ABOVEzlWO DOTS VERTICALLY ABOVEzjHEENa FINAL FORMkINITIAL FORMlSOLATED F",
    "ORMnMEDIAL FORMlWITH DOT BELOWtTRAIGHT WAWlUPERSCRIPT ALEFpWASH KAFjTAHa FINAL FORMkINITIAL ",
    "FORMlSOLATED FORMnMEDIAL FORMlWITH DOT BELOWjTHREE DOTS ABOVEfBELOWpWO DOTS ABOVEwCHEHa FINA",
    "L FORMkINITIAL FORMlSOLATED FORMnMEDIAL FORMlWITH DOT ABOVEjSMALL VnEHa FINAL FORMkINITIAL F",
    "ORMlSOLATED FORMnMEDIAL FORMsEHa FINAL FORMkINITIAL FORMlSOLATED FORMnMARBUTAa FINAL FORMkGO",
    "ALeISOLATED FORMuEDIAL FORMlWITH RINGeSMALL TEH ABOVEjVhTHREE DOTS ABOVE DOWNWARDSzhEHa FINA",
    "L FORMkINITIAL FORMlSOLATED FORMnMEDIAL FORMqHALa FINAL FORMkISOLATED FORMqEHa FINAL FORMkIN",
    "ITIAL FORMlSOLATED FORMnMEDIAL FORMoIN YEHhTEHa FINAL FORMkINITIAL FORMlSOLATED FORMnMEDIAL ",
    "FORMlWITH SMALL VnEHa FINAL FORMkINITIAL FORMlSOLATED FORMnMEDIAL FORMsUa FINAL FORMkISOLATE",
    "D FORMnWITH HAMZA ABOVEa ISOLATED FORMzgIGHUR KAZAKH KIRGHIZ ALEF MAKSURA INITIAL FORMmMEDIA",
    "L FORMzvVEa FINAL FORMkISOLATED FORMoHa FINAL FORMkINITIAL FORMlSOLATED FORMnMEDIAL FORMpWAW",
    "a FINAL FORMkISOLATED FORMnWITH DOT ABOVEfWITHINkEXTENDED ARABIC-INDIC DIGIT THREE ABOVEkWO ",
    "ABOVEzmHAMZA ABOVEa FINAL FORMkISOLATED FORMzRINGeTWO DOTS ABOVExYEHa BARREEa FINAL FORMkISO",
    "LATED FORMnWITH EXTENDED ARABIC-INDIC DIGIT THREE ABOVEkWO ABOVEzmHAMZA ABOVEa FINAL FORMkIS",
    "OLATED FORMzmFINAL FORMkINITIAL FORMlSOLATED FORMnMEDIAL FORMlWITH HAMZA ABOVEa FINAL FORMkI",
    "NITIAL FORMlSOLATED FORMnMEDIAL FORMxSMALL VhTAILdHREE DOTS BELOWpWO DOTS BELOW AND DOT ABOV",
    "EjHAMZA ABOVElSMALL NOON ABOVEzsUa FINAL FORMkISOLATED FORMqZAHa FINAL FORMkINITIAL FORMlSOL",
    "ATED FORMnMEDIAL FORMnINa FINAL FORMkISOLATED FORMnWITH INVERTED V ABOVEzhIGATURE AIN WITH A",
    "LEF MAKSURA FINAL FORMkISOLATED FORMzbJEEM INITIAL FORMlSOLATED FORMnWITH MEEM FINAL FORMkIN",
    "ITIAL FORMzcMEEM INITIAL FORMlSOLATED FORMnWITH ALEF MAKSURA FINAL FORMxMEEM FINAL FORMkINIT",
    "IAL FORMrYEH FINAL FORMyYEH FINAL FORMkISOLATED FORMzKBAR ISOLATED FORMsLAYHAA AS-SALAAMmE I",
    "SOLATED FORMpI AS-SALAAMbTU WAS-SALAAMwM AS-SALAAMkAA AS-SALAAMrEF MAKSURA WITH SUPERSCRIPT ",
    "ALEF FINAL FORMkISOLATED FORMzsWITH FATHATAN FINAL FORMkISOLATED FORMzfLAH ISOLATED FORMsZZA",
    " WA JALLmBEH WITH ALEF MAKSURA FINAL FORMkISOLATED FORMzbHAH INITIAL FORMlSOLATED FORMnWITH ",
    "YEH FINAL FORMwEH INITIAL FORMmMEDIAL FORMpJEEM INITIAL FORMlSOLATED FORMsKHAH INITIAL FORMl",
    "SOLATED FORMnWITH YEH FINAL FORMyMEEM FINAL FORMkINITIAL FORMlSOLATED FORMnMEDIAL FORMqNOON ",
    "FINAL FORMpREH FINAL FORMoYEH FINAL FORMkISOLATED FORMrZAIN FINAL FORMxISMILLAH AR-RAHMAN AR",
    "-RAHEEMzeDAD WITH ALEF MAKSURA FINAL FORMkISOLATED FORMzbHAH INITIAL FORMlSOLATED FORMnWITH ",
    "ALEF MAKSURA FINAL FORMxYEH FINAL FORMxJEEM INITIAL FORMlSOLATED FORMsKHAH INITIAL FORMlSOLA",
    "TED FORMnWITH MEEM FINAL FORMkINITIAL FORMzcMEEM INITIAL FORMlSOLATED FORMsREH FINAL FORMkIS",
    "OLATED FORMrYEH FINAL FORMkISOLATED FORMzbFEH WITH ALEF MAKSURA FINAL FORMkISOLATED FORMzbHA",
    "H INITIAL FORMlSOLATED FORMrJEEM INITIAL FORMlSOLATED FORMsKHAH INITIAL FORMlSOLATED FORMnWI",
    "TH MEEM FINAL FORMkINITIAL FORMzcMEEM INITIAL FORMlSOLATED FORMnWITH YEH FINAL FORMyYEH FINA",
    "L FORMkISOLATED FORMzbGHAIN WITH ALEF MAKSURA FINAL FORMkISOLATED FORMzbJEEM INITIAL FORMlSO",
    "LATED FORMsMEEM INITIAL FORMlSOLATED FORMnWITH ALEF MAKSURA FINAL FORMxMEEM FINAL FORMpYEH F",
    "INAL FORMyYEH FINAL FORMkISOLATED FORMzdHAH WITH ALEF MAKSURA FINAL FORMkISOLATED FORMzbJEEM",
    " INITIAL FORMlSOLATED FORMnWITH YEH FINAL FORMyMEEM INITIAL FORMlSOLATED FORMnWITH ALEF MAKS",
    "URA FINAL FORMxYEH FINAL FORMyYEH FINAL FORMkISOLATED FORMzEH WITH ALEF MAKSURA ISOLATED FOR",
    "MzbJEEM INITIAL FORMlSOLATED FORMsMEEM INITIAL FORMlSOLATED FORMnWITH JEEM INITIAL FORMrMEEM",
    " INITIAL FORMzcSUPERSCRIPT ALEF INITIAL FORMzeYEH ISOLATED FORMzbJALLAJALALOUHOUoEEM WITH AL",
    "EF MAKSURA FINAL FORMkISOLATED FORMzbHAH INITIAL FORMlSOLATED FORMnWITH ALEF MAKSURA FINAL F",
    "ORMxYEH FINAL FORMxMEEM INITIAL FORMlSOLATED FORMnWITH ALEF MAKSURA FINAL FORMxHAH FINAL FOR",
    "MkINITIAL FORMqYEH FINAL FORMyYEH FINAL FORMkISOLATED FORMzcKAF WITH ALEF FINAL FORMkISOLATE",
    "D FORMnMAKSURA FINAL FORMkISOLATED FORMzbHAH INITIAL FORMlSOLATED FORMrJEEM INITIAL FORMlSOL",
    "ATED FORMsKHAH INITIAL FORMlSOLATED FORMsLAM FINAL FORMkINITIAL FORMlSOLATED FORMnMEDIAL FOR",
    "MpMEEM FINAL FORMkINITIAL FORMlSOLATED FORMnMEDIAL FORMlWITH MEEM FINAL FORMkINITIAL FORMrYE",
    "H FINAL FORMyYEH FINAL FORMkISOLATED FORMzHAH WITH ALEF MAKSURA FINAL FORMkISOLATED FORMzbHA",
    "H ISOLATED FORMrJEEM INITIAL FORMlSOLATED FORMsMEEM INITIAL FORMlSOLATED FORMsYEH FINAL FORM",
    "kISOLATED FORMzcLAM WITH ALEF FINAL FORMkISOLATED FORMnMAKSURA FINAL FORMkISOLATED FORMvWITH",
    " HAMZA ABOVE FINAL FORMkISOLATED FORMtBELOW FINAL FORMkISOLATED FORMzMADDA ABOVE FINAL FORMk",
    "ISOLATED FORMzkHAH INITIAL FORMlSOLATED FORMnWITH ALEF MAKSURA FINAL FORMxMEEM FINAL FORMkIN",
    "ITIAL FORMrYEH FINAL FORMwEH INITIAL FORMqJEEM INITIAL FORMlSOLATED FORMnWITH JEEM FINAL FOR",
    "MkINITIAL FORMrMEEM FINAL FORMkINITIAL FORMrYEH FINAL FORMyKHAH INITIAL FORMlSOLATED FORMnWI",
    "TH MEEM FINAL FORMkINITIAL FORMzcMEEM FINAL FORMkINITIAL FORMlSOLATED FORMnMEDIAL FORMlWITH ",
    "HAH FINAL FORMkINITIAL FORMqYEH FINAL FORMyYEH FINAL FORMkISOLATED FORMzbMEEM WITH ALEF FINA",
    "L FORMkMAKSURA ISOLATED FORMzbHAH INITIAL FORMlSOLATED FORMnWITH JEEM INITIAL FORMrMEEM INIT",
    "IAL FORMrYEH FINAL FORMxJEEM INITIAL FORMlSOLATED FORMnWITH HAH INITIAL FORMqKHAH INITIAL FO",
    "RMrMEEM INITIAL FORMrYEH FINAL FORMyKHAH INITIAL FORMlSOLATED FORMnWITH JEEM INITIAL FORMrME",
    "EM INITIAL FORMrYEH FINAL FORMyMEEM FINAL FORMkINITIAL FORMlSOLATED FORMnWITH YEH FINAL FORM",
    "yYEH ISOLATED FORMzbOHAMMAD ISOLATED FORMwNOON WITH ALEF MAKSURA FINAL FORMkISOLATED FORMzbH",
    "AH INITIAL FORMlSOLATED FORMnWITH ALEF MAKSURA FINAL FORMxMEEM INITIAL FORMrYEH FINAL FORMwE",
    "H INITIAL FORMmMEDIAL FORMpJEEM INITIAL FORMlSOLATED FORMnWITH ALEF MAKSURA FINAL FORMxHAH F",
    "INAL FORMkINITIAL FORMqMEEM FINAL FORMkINITIAL FORMrYEH FINAL FORMyKHAH INITIAL FORMlSOLATED",
    " FORMsMEEM FINAL FORMkINITIAL FORMlSOLATED FORMnMEDIAL FORMlWITH ALEF MAKSURA FINAL FORMxYEH",
    " FINAL FORMyNOON FINAL FORMpREH FINAL FORMoYEH FINAL FORMkISOLATED FORMrZAIN FINAL FORMzQAF ",
    "WITH ALEF MAKSURA FINAL FORMkISOLATED FORMzbHAH INITIAL FORMlSOLATED FORMrMEEM INITIAL FORMl",
    "SOLATED FORMnWITH HAH FINAL FORMkINITIAL FORMqMEEM FINAL FORMpYEH FINAL FORMyYEH FINAL FORMk",
    "ISOLATED FORMyLA USED AS KORANIC STOP SIGN ISOLATED FORMzsUDDISA SIRRAHoRADI ALLAAHU ANHaAAc",
    "UMaAAdNNAsHIMAHU ALLAAHhM ALLAAHoSOUL ISOLATED FORMtEH WITH SUPERSCRIPT ALEF ISOLATED FORMzo",
    "SAD WITH ALEF MAKSURA FINAL FORMkISOLATED FORMzbHAH INITIAL FORMlSOLATED FORMnWITH HAH FINAL",
    " FORMkINITIAL FORMqYEH FINAL FORMxKHAH INITIAL FORMrMEEM INITIAL FORMlSOLATED FORMnWITH MEEM",
    " FINAL FORMkINITIAL FORMzcREH FINAL FORMkISOLATED FORMrYEH FINAL FORMkISOLATED FORMyLAAMUHU ",
    "ALAYNAAnM ISOLATED FORMqLA ISOLATED FORMnUSED AS KORANIC STOP SIGN ISOLATED FORMzpLLAAHU ALA",
    "YHI WA-AALIHtHOU ALAYHE WASALLAMsU ALAYHI WAAALIHEE WA-SALLAMzlEEN WITH ALEF MAKSURA FINAL F",
    "ORMkISOLATED FORMzbHAH INITIAL FORMlSOLATED FORMnMEDIAL FORMlWITH JEEM INITIAL FORMzEH INITI",
    "AL FORMmMEDIAL FORMpJEEM INITIAL FORMlSOLATED FORMnMEDIAL FORMlWITH ALEF MAKSURA FINAL FORMx",
    "HAH INITIAL FORMzbKHAH INITIAL FORMlSOLATED FORMnMEDIAL FORMlWITH ALEF MAKSURA FINAL FORMxYE",
    "H FINAL FORMyMEEM INITIAL FORMlSOLATED FORMnMEDIAL FORMlWITH HAH FINAL FORMkINITIAL FORMqJEE",
    "M INITIAL FORMrMEEM FINAL FORMkINITIAL FORMzcREH FINAL FORMkISOLATED FORMrYEH FINAL FORMkISO",
    "LATED FORMzbHADDA WITH DAMMA ISOLATED FORMnMEDIAL FORMmTAN ISOLATED FORMwFATHA ISOLATED FORM",
    "nMEDIAL FORMrKASRA ISOLATED FORMnMEDIAL FORMmTAN ISOLATED FORMwSUPERSCRIPT ALEF ISOLATED FOR",
    "MzpEEN WITH ALEF MAKSURA FINAL FORMkISOLATED FORMzbHAH FINAL FORMkINITIAL FORMlSOLATED FORMn",
    "MEDIAL FORMlWITH MEEM FINAL FORMkINITIAL FORMrYEH FINAL FORMwEH INITIAL FORMmMEDIAL FORMpJEE",
    "M FINAL FORMkINITIAL FORMlSOLATED FORMnMEDIAL FORMlWITH YEH FINAL FORMyKHAH FINAL FORMkINITI",
    "AL FORMlSOLATED FORMnMEDIAL FORMqMEEM FINAL FORMkINITIAL FORMlSOLATED FORMnMEDIAL FORMlWITH ",
    "KHAH FINAL FORMkINITIAL FORMrMEEM FINAL FORMkINITIAL FORMzcREH FINAL FORMkISOLATED FORMrYEH ",
    "FINAL FORMkISOLATED FORMzcUBHAANAHU WA TAAALAAvTABAARAKA WA-TAAALAAsH WITH ALEF MAKSURA FINA",
    "L FORMkISOLATED FORMzbHAH INITIAL FORMlSOLATED FORMrMEEM INITIAL FORMlSOLATED FORMnMEDIAL FO",
    "RMlWITH HAH FINAL FORMkINITIAL FORMqMEEM INITIAL FORMrYEH FINAL FORMyYEH FINAL FORMkISOLATED",
    " FORMzEH WITH ALEF MAKSURA FINAL FORMkISOLATED FORMzbHAH INITIAL FORMlSOLATED FORMnWITH JEEM",
    " FINAL FORMkINITIAL FORMrMEEM INITIAL FORMzEH INITIAL FORMmMEDIAL FORMpJEEM INITIAL FORMlSOL",
    "ATED FORMnWITH ALEF MAKSURA FINAL FORMxMEEM INITIAL FORMrYEH FINAL FORMyKHAH INITIAL FORMlSO",
    "LATED FORMnWITH ALEF MAKSURA FINAL FORMxMEEM INITIAL FORMrYEH FINAL FORMyMEEM FINAL FORMkINI",
    "TIAL FORMlSOLATED FORMnMEDIAL FORMlWITH ALEF MAKSURA FINAL FORMxHAH INITIAL FORMqJEEM INITIA",
    "L FORMrKHAH INITIAL FORMrYEH FINAL FORMyNOON FINAL FORMpREH FINAL FORMoYEH FINAL FORMkISOLAT",
    "ED FORMrZAIN FINAL FORMxHAL WITH SUPERSCRIPT ALEF ISOLATED FORMznEH WITH ALEF MAKSURA FINAL ",
    "FORMkISOLATED FORMzbHEH MEDIAL FORMpJEEM ISOLATED FORMsMEEM FINAL FORMkINITIAL FORMlSOLATED ",
    "FORMnMEDIAL FORMqNOON FINAL FORMpREH FINAL FORMoYEH FINAL FORMkISOLATED FORMrZAIN FINAL FORM",
    "zUIGHUR KIRGHIZ YEH WITH HAMZA ABOVE WITH ALEF MAKSURA FINAL FORMkINITIAL FORMlSOLATED FORMz",
    "zrWASALLAM ISOLATED FORMwYEH WITH ALEF MAKSURA FINAL FORMkISOLATED FORMzbHAH INITIAL FORMlSO",
    "LATED FORMnWITH YEH FINAL FORMvMZA ABOVE WITH AE FINAL FORMkISOLATED FORMpLEF FINAL FORMkISO",
    "LATED FORMnMAKSURA FINAL FORMkISOLATED FORMzbE FINAL FORMkINITIAL FORMlSOLATED FORMpHAH INIT",
    "IAL FORMlSOLATED FORMqEH INITIAL FORMmMEDIAL FORMpJEEM INITIAL FORMlSOLATED FORMsKHAH INITIA",
    "L FORMrMEEM FINAL FORMkINITIAL FORMlSOLATED FORMnMEDIAL FORMqNOON FINAL FORMpOE FINAL FORMkI",
    "SOLATED FORMqREH FINAL FORMoU FINAL FORMkISOLATED FORMpWAW FINAL FORMkISOLATED FORMrYEH FINA",
    "L FORMkISOLATED FORMqU FINAL FORMkISOLATED FORMqZAIN FINAL FORMzgEH INITIAL FORMmMEDIAL FORM",
    "pJEEM INITIAL FORMlSOLATED FORMnWITH YEH FINAL FORMyKHAH INITIAL FORMlSOLATED FORMsMEEM FINA",
    "L FORMkINITIAL FORMlSOLATED FORMnMEDIAL FORMlWITH MEEM FINAL FORMkINITIAL FORMrYEH FINAL FOR",
    "MyNOON FINAL FORMpREH FINAL FORMoYEH FINAL FORMkISOLATED FORMrZAIN FINAL FORMyZAH WITH MEEM ",
    "INITIAL FORMlSOLATED FORMnMEDIAL FORMzjMADDA WAAJIBhH ABOVEkRK NOON GHUNNAlSIDEWAYS NOON GHU",
    "NNAxTHEMATICAL AINcLEFeBEHdDADbLcOTLESS BEHdFEHdNOONeQAFjUBLE-STRUCK AINdBEHdDADbLdFEHdGHAIN",
    "fHAHdJEEMeKHAHeLAMdMEEMeNOONeQAFdREHdSADcEENdHEENfTAHcEHcHALcEHeWAWdYEHdZAHbINsFEHdGHAINfHAH",
    "dINITIAL AINdBEHdDADdFEHdGHAINfHAHcEHdJEEMeKAFcHAHeLAMdMEEMeNOONeQAFdSADcEENdHEENfTEHcHEHeYE",
    "HlJEEMeKAFcHAHeLAMcOOPED AINcLEFeBEHdDADbLdFEHdGHAINfHAHcEHdJEEMeKHAHeLAMdMEEMeNOONeQAFdREHd",
    "SADcEENdHEENfTAHcEHcHALcEHeWAWdYEHdZAHbINlMEEMeNOONeOPERATOR HAH WITH DALmMEEM WITH HAH WITH",
    " TATWEELzkQAFdREHdSADcEENdHEENeTRETCHED AINdBEHdDADcOTLESS BEHdFEHlFEHdGHAINfHAHcEHdJEEMeKAF",
    "cHAHeMEEMeNOONeQAFdSADcEENdHEENfTAHcEHcHEHeYEHdZAHnTAHbILED AINdDADcOTLESS NOONeQAFlGHAINfHA",
    "HdJEEMeKHAHeLAMdNOONeQAFdSADcEENdHEENfYEHjEHcHALcEHeWAWdYEHdZAHbINrNUMBER MARK ABOVEkSIGNlOP",
    "EN DAMMATANiFATHATANiKASRATANnPERCENT SIGNlIASTRE MARK ABOVErLACE OF SAJDAHoOETIC VERSE SIGN",
    "pUND MARK ABOVEqQUESTION MARKnRAISED ROUND DOToYcEVERSED DAMMAnIGHT ARROWHEAD ABOVEa WITH DO",
    "ToBELOWuOUNDED HIGH STOP WITH FILLED CENTREzlSEMICOLONiHADDAa ISOLATED FORMnMEDIAL FORMrIGN ",
    "ALAYHE ASSALLAMpMISRAfRADI ALLAHOU ANHUpHMATULLAH ALAYHEsSAFHAdLLALLAHOU ALAYHE WASSALLAMzbM",
    "VATeNAHeINDHI AMPERSANDjPOSTPOSITION MENxTAKHALLUSnMALL DAMMAfFARSI YEHhTHAfHIGH AINdDOTLESS",
    " HEAD OF KHAHuFARSI YEHiOOTNOTE MARKERpJEEMeLAM ALEFhIGATURE ALEF WITH LAM WITH YEHwQAF WITH",
    " LAM WITH ALEF MAKSURAzfSAD WITH LAM WITH ALEF MAKSURAzoMADDAeEEM INITIAL FORMlSOLATED FORMs",
    "NOONa WITH KASRApQAFdROUNDED ZEROmSADcEENdIGN SAFHAkTAHcHREE DOTSkUPRIGHT RECTANGULAR ZEROyW",
    "AWcORD AL-JUZfN-NISFgR-RUBfS-SAJDAhTH-THALATHAmQIFdSAHbKTAfWAQFAkYEHa BARREE WITH TWO DOTS B",
    "ELOWzfZAHbINjKASRAfLOW MEEMeNOON WITH KASRApSEENeWAWcORD IMAALAfSHMAAMhTASHEELqWAWdYEHiTART ",
    "OF RUB EL HIZBtUBSCRIPT ALEFmKUNa BELOWfISOLATED FORMnMEDIAL FORMpPERSCRIPT ALEF MOKHASSASzY",
    "MBOL DOT ABOVEfBELOWhUBLE VERTICAL BAR BELOWzFOUR DOTS ABOVEfBELOWpRINGeSMALL TAH ABOVEfBELO",
    "WpTHREE DOTS ABOVEfBELOWfPOINTING DOWNWARDS ABOVEfBELOWzjWO DOTS ABOVEfBELOWfVERTICALLY ABOV",
    "EfBELOWzWASLA ABOVEsTAIL FRAGMENTlTWEELa WITH FATHATAN ABOVEoOVERSTRUCK HAMZAfWAWoTWO DOTS B",
    "ELOWzbHOUSANDS SEPARATORsONE LOOP ABOVEfBELOWkONE DOT ABOVEfBELOWnTWO DOTS ABOVEfBELOWsRIPLE",
    " DOT PUNCTUATION MARKzbURNED DAMMA BELOWsVERTICAL TAILmOWEL SIGN DOT BELOWjINVERTED SMALL V ",
    "ABOVEwSMALL V ABOVEyWAVY HAMZA BELOWqZWARAKAYj-INDIC CUBE ROOTjDIGIT EIGHTfFIVEdOUReNINEeONE",
    "dSEVENeIXdTHREEeWOdZEROkFOURTH ROOTlPER MILLE SIGNkTEN THOUSAND SIGNzhCbIESdMENIAN ABBREVIAT",
    "ION MARKqPOSTROPHEkCAPITAL LETTER AYBdBENdCAbHAbEHdOcDAcECHcHbTcFEHdGHADdIMdHOcINIdJAbHEHeKE",
    "HbNdLIWNeMENdNOWdOHcPEHcIWReRAbEHdSEHcHAdTIWNdOcVEWcOcXEHdYIaWNeZAbHErOMMAfDRAM SIGNjEMPHASI",
    "S MARKmXCLAMATION MARKqFULL STOPjHYPHENgMODIFIER LETTER LEFT HALF RINGzfQUESTION MARKnSMALL ",
    "LETTER AYBdBENdCAbHAbEHdOcDAcECHcHbTcFEHdGHADdIMdHOcINIdJAbHEHeKEHbNdLIWNeMENdNOWdOHcPEHcIWR",
    "eRAbEHdSEHcHAdTIWNdObURNED AYBkVEWcOcXEHdYIa WITH STROKEmWNeZAbHEjIGATURE ECH YIWNiMEN ECHdI",
    "NIdNOWdXEHhVEW NOWzeROW POINTING DOWNWARDS THEN CURVING LEFTWARDSjRIGHTWARDSziRIGHTWARDS THE",
    "N CURVING DOWNWARDSjSOUTH WESTkUPWARDSzgUPWARDS THEN NORTH WESTziHEAD-SHAPED POINTERwTICULAT",
    "ED LORRYnST PALETTEnSCENDING NODElIA SYMBOLkSERTIONhTERISKa OPERATORkMfONISHED FACEmRAEAdONO",
    "MICAL SYMBOL FOR URANUSzdYMPTOTICALLY EQUAL TOwTHLETIC SHOElOM SYMBOLkUBERGINEhSTRAL SIGNkTO",
    " RICKSHAWjMATED TELLER MACHINEtOBILEjVESTAN ABBREVIATION MARKrLETTER AaAaNbOcEaEcNbOcBEbHEdC",
    "EcDEbHEdEaEcFEcGEbGEcHEdHEbMEdIaIcJEcKEcLEcMEcNEbGEbVEcYEdNEcYEdOaOcPEcREcSEbHEbYEdSHEeTEbHE",
    "cTEdUaUcVEcXEbVEcYEdYEbYEdZEbHEqOCADOgXEdBABYa ANGELfBOTTLEgCHICKfSYMBOLjCK OF ENVELOPElWITH",
    " LEFTWARDS ARROW ABOVEzc-TILTED SHADOWED WHITE RIGHTWARDS ARROWzoSLANTED SOUTH ARROW WITH HO",
    "OKED TAILjRIZONTAL TAILzoPACEgONcTRIAN CAMELmDGERdMINTON RACQUET AND SHUTTLECOCKzgGELcGAGE C",
    "LAIMkUETTE BREADmLINESE ADEG ADEGjCARIK PAMUNGKAHhRERENhSIKIkDIGIT EIGHTfFIVEdOUReNINEeONEdS",
    "EVENeIXdTHREEeWOdZEROkLETTER AIKARAfKARAa TEDUNGlRCHAIC JNYAlSYURA SASAKmBAa KEMBANGkCAa LAC",
    "AhDAa MADUdURDA ALPAPRANAjMAHAPRANAsEF SASAKhKARAfGAa GORAhHAcIKARAa TEDUNGmJAa JERAhKAa MAH",
    "APRANAkF SASAKiHOT SASAKkLAa LENGAa TEDUNGpMAcNAa RAMBATiGAcYAdOKARAa TEDUNGmPAa KAPALiRAa R",
    "EPAa TEDUNGoSAa SAGAcPAhTAa LATIKfMURDA MAHAPRANApTAWAgZIR SASAKkUKARAa TEDUNGmVE SASAKiWAcY",
    "AcZAL SASAKqMUSICAL SYMBOL COMBINING BENDEfENDEPfGONGeJEGOGANhKEMPLIa WITH JEGOGANpULa WITH ",
    "JEGOGANtTEGEHpDAENGdINGdNGa GEDEeSURANGkENGcUNGeINGdONGdUNGeLEFT-HAND CLOSED PLAKcUKlOPEN PA",
    "NGdINGdUNGtRIGHT-HAND CLOSED TAKcUKkOPEN DAGcUGzjPAMADAa LANTANGlENENGgNTIa LANTANGnSIGN BIS",
    "AHfCECEKfREREKANhSURANGgULU CANDRAgRICEMoVOWEL SIGN LA LENGAa TEDUNGpPEPETa TEDUNGmRA REPAa ",
    "TEDUNGoSUKUa ILUTjTALINGa REPAa TEDUNGlTEDUNGmEDUNGgULUa SARItWINDUlL OF YARNiET SHOESiOONa-",
    "SPOKED ASTERISKsT BOLD SCRIPT XlXa WITH BALLOTfOLD CHECKfSCRIPT XnCHECKfLIGHT XhSCRIPT XiXkS",
    "CRIPT XiXgMUM COLONdMBINING MARK KOQNDONhTUKWENTISvMAfFULL STOPjLETTER AbEEcFAAMAEfEEcOMcUcI",
    "bKAbENbTbUXdIbOaGHOMeVUUePAcUbYEEeLAbEEEEeIbOQcUcMaAbBAAcENdEEEEdNcIbObUcNAbDAAdGAbGAcKWAENg",
    "IbJAEMdEEcUAEeSHAdTEEcUUdUaAEdYIdObPAbEEbUXdHASE-A FIRIeGBIEE FONiHEUAEGHEUAEgRAEjKAFAcQcETb",
    "UKEUTNDAjPOQdUOQeLAPAQeET KUTgOMMAEfUaAEPfMAEKEUPeMaBGBIEEgKPENeVEUXfNYIdSIdNSUAEfP PIEETiBA",
    "NYIdQdEUNJOMNDEUQlGBASAfON NGGEUAETkOMEUTdPUQgVEUAENGAMkNAA MFONgQcDA LEERAEWAjANGGEUAETlENc",
    "GANGUeGENdKUE MFONfNZEUMjIKAdJAMdKAARAEfINDIfSHAbIEEfTAPa MFAAeNTAAhOQPENgYETcIaT MONGKEUAEQ",
    "oZA MFONgUN MEUTjPA LEERAEWAjAMbRAEeMSHAEfSHAEfETcON MFON PIPAEMBAcGBIEEqPA NJI PIPAEMBAcGBI",
    "EEvUPdROMdSEUNYAMgHINDA PA NJIkRAEeOQ NSHUT YUMmUENSHUEThMdISAdONJAMeQbTcUUdTEUAENdTEUWENiIT",
    "A MFONiU MAEMBAhAEPfU YUQ NAEiNKNOWNhVEEfB FEEbUXeGHEUGHENbUAEMlKAMcEUAEMdPUQdYEUXgIEEMdQdLA",
    "ANAEeM NSHUT NYAMnETcOM NTEUMjMAa NJEUAENAgUQAhBA MAELEEhARAEfEURIeIT MBAAKETkUOQeEUQbT NGGE",
    "ETkFIYAQeON TEUAEQkONTIEENiNDU NJAAhGGAAMdEU MBUgUOQa LARGEkKINDI MVOPkOMdSENcHUETfTIEE SHEU",
    "OQlYAEMAEfI NTEUMjPARUMeEESHIfITcUNGAAMhSAKEUAEgET TUfHET NJAQgUAEQTUiIEEdUEdTAAMdU MAEMGBIE",
    "EjNSIEEiVEUMeWUAETfYAFU LEERAEWAmEURAEiC BUNGeFUEdGBAYIeHAPbRAEgKAAcEN FATIGUEhLAWfTbUKAQdMb",
    "SEUXdHEUAEPjPARAQfUOP NKAARAEkTdLAMbPcIQcUcMA KEUAERIhNSIEEgEMBAdSIeBAA CABBAGE-TREEmPICKETi",
    "NYIeEEKEETfRAEdUMbXdIaRIEENfTcUAEMdEdGBASAQgIEEdUAEeNANSANAQgQcDAMbPcEUAEREEfTdIDAdOMBUfGAQc",
    "GENcUaAEN NYAMiEETdMbONeKAQcUE MAEMBAkOMdJAEMcMcEEEEdUXdUEQeSAbEUAENfHAQdOMcUNbOT NGOMjTAAcE",
    "NbUNGBAgU MBIThYIR MKPARAQ MEUNqZAbEUMfPENcINbRIEENhRUcSETFONeUXdHIQcUEQeUAETfTAASHAEgETbUTE",
    "UXgITA YUEfUAEPhVEUAEPENfXeWANGKUOQhUPdYAAcEUQdU MUOMAEhMbWOQhD FAAcEUFEUAETjGHAAcEUAEgKETbU",
    "AETMEUNhMbOT MBUAEiPdUaNbOMcQcWAETeYEEeLEEEEdTbUAEPdMdIEEdOQcUMdMaAENJETfLEERIgBAAa SEVENiUO",
    "dEEEEdUNbTdFEUAEcTdIEEdOaNdGBEUNdIEEdOFUMgONIdUbVOPeNDAMcEEbUXdONdGGAAMaAEePcEUXdUOMdWAENfKA",
    "PcEUAEQdRIeIEEdUNcYEEfIbJAPcEUAEMdTdIaEEdUEQeSHEEcUTdIEEPbTeUMdTEEbUMdUUdUbYAMcETcIbUEePAPcE",
    "EbUTAEfIPcUQbUTeRAEMdEN MUCHeOLDgIIdSAPbQcEUAEQfHEEbUAEcXdIIcOQcUcOTcUAEcEbUdTAEcEEEEdUAENdN",
    "bTdIbOQcUaOTeWAPcUAENfYAEMMAEgENcUOMbPcWOQhE AbFAaQcEEcOMcU CALLeIbREMEDYhEaTeGBETbUXeHAAMAE",
    "fETbUAEcNbXdOMeIbKETbUAEcXdIbObPEUXeUETcOPcTdLAAMcPbQcEUAEMfOMbONbTcQcUcMAaEaMcPbQcBEEbUMeEN",
    "cFEUQeGBAbENeIaEEdONcUAEdVIdNAaEcDAA MY HOUSEiSOFTNESSkPcIAQcQcUNdGAbEUREUTgGEEEEdUAEaTfUAES",
    "HAE NYAMlPbRAEfKAaAMIeEUAEMdXdUMbPdOPbQcUAEaTfJAEMLIfEEa EPOCHhUXeKOMdSHIEEdUEbOPfTAPcUMdYI ",
    "BETWEENhCLEAVERkZAQcUQeObPA PEOPLEfLURALhAaMdEEMcUTbXdIaEEQcTdOaONdUaAEbQcEbMdRAEbQcEUXdIMGB",
    "AgSAAcEEbTcHEUAEQfIQcOaQdOMcUAENfTAAaQcEN NTEUMiMbQcENbUaAEQfOOaNcQcUAEcMaAEfVEEbUAEeOMdWEUX",
    "dUEbOdYAPcEUAEaTdMbXdIEEcTcOQ COVERfSWIMMINGlUAENdEQcNbQfF EEcFOMdKAbENbTcObPAcUbYEEeLAbIbOQ",
    "dMaAbBAAcENdEEEEeOcNDAAdGGAcKWAENgIbJAEMdUAEeSHAdTEEdUaAEdYIdPEEbUXdUAEeREEbNbUXdIEEcIcUcSAM",
    "BAeEUXdHIIcObUcIbUUdTAAbEcETdUbVUEQeWAbUEdYAbOQkIbUAEcEdRAEcEEbNbUXdIEEcIcUcSAMBAeEUXdHEUXdI",
    "IcObUcIbUUdTAAbEcENbTcIcUbWAbUEdYAbOQcUQkNJAEMLIhQUESTION MARKnSEMICOLONnNANAdJOcKaNOTE WITH",
    " DOLLAR SIGNlEURO SIGNjPOUND SIGNkYEN SIGNuR CHARTfOF SOAPiBER POLEjSEBALLfKETaBALL AND HOOP",
    "qSA VAH COMBINING HIGH TONEf-LOW TONEnLOW TONEf-MID TONEmMID TONEsFULL STOPjLETTER AbBAcCEcD",
    "HIIdOcEaEbNNIeFAcGAHcBUdHWAHeIbJOcKAbPAHeMBEdOaOcPAcSEcTOcUaWUdVUcWAaDDAfYEINdIEdZOrTaAK CON",
    "SONANT SIGN HbNGrLETTER AbBAcCAcDAcGAcHAcIbJAcKARO BAhLAcMAaNDAILING HAcNAcSAmBAdNAbDAcGAcOR",
    "THERN TAkYAdPAaKPAK WAjRAcSAbIMALUNGUN AbGAcHAcLAcMAcPAcRAcSAcWAcYAmOUTHERN TAlUbWAcYAjPANGO",
    "LATfONGONANkSIGN TOMPIjYMBOL BINDU JUDULfNA METEKiPANGOLAThINARBORASxVOWEL SIGN EaEcIbKARO I",
    "bOgObPAKPAK EiUa FOR SIMALUNGUN SAziHaTUBeTERYgEACH WITH UMBRELLAqMED ASCENDING MUSICAL NOTE",
    "SxDESCENDING MUSICAL NOTESyEIGHTH NOTESmSIXTEENTH NOTEStNScR FACEfDED PERSONlTING HEARTkVERe",
    "CAUSEfDbER MUGfTLEeLaLa PEPPERgSYMBOLgWITH CANCELLATION STROKEzHOP BELLkNGALI ABBREVIATION S",
    "IGNqNJIdU LENGTH MARKoCURRENCY DENOMINATOR SIXTEENtNUMERATOR FOUReONEa LESS THAN THE DENOMIN",
    "ATORzeTHREEeWOwDIGIT EIGHTfFIVEdOUReNINEeONEdSEVENeIXdTHREEeWOdZEROkGANDA MARKkISSHARgLETTER",
    " AaAbIbUcBAbHAdCAbHAdDAbDAbHAdHAdEbGAbHAdHAcIaIcJAbHAdKAbHAaNDA TAjLAcMAcNAbGAcNAcYAdObPAbHA",
    "dRAa WITH LOWER DIAGONALoMIDDLE DIAGONALwHAcRAdSAbHAcSAdTAbHAcTAbHAeUaUcVEDIC ANUSVARAnOCALI",
    "C LaLcRaRkYAbYAkRUPEE MARKeSIGNkSANDHI MARKkIGN ANUSVARAhVAGRAHAiCANDRABINDUlNUKTAfVIRAMAeSA",
    "RGAmVOWEL SIGN AAbIbUcEbIaIcObUaUcVOCALIC LaLcRaRzbT ARROW POINTING DOWNWARDS THEN NORTH EAS",
    "TzqO BOXgZENE RINGa WITH CIRCLEwT SYMBOLhWEENfVERAGE BOXlHAIKSUKI DANDAeIGIT EIGHTfFIVEdOURe",
    "NINEeONEdSEVENeIXdTHREEeWOdZEROjOUBLE DANDAmGAP FILLER-1b2mHUNDREDS UNIT MARKsLETTER AaAbIbU",
    "cBAbHAdCAbHAdDAbDAbHAdHAdEbGAbHAdHAcIaIcJAbHAdKAbHAdLAcMAcNAbGAcNAcYAdObPAbHAdRAcSAbHAcSAdTA",
    "bHAcTAbHAeUaUcVAbOCALIC LbRaRkYAjNUMBER EIGHTaYgFIFTYdVEdORTYdUReNINEaTYgONEdSEVENaTYgIXaTYf",
    "TENcHIRTYeREEeWENTYeOkSIGN ANUSVARAhVAGRAHAiCANDRABINDUlVIRAMAeSARGAmVOWEL SIGN AAbIbUcEbIaI",
    "cObUaUcVOCALIC LbRaRvWORD SEPARATORxICYCLEbISThG REVERSE SOLIDUSpSOLIDUSjKINIeLLED CAPgIARDS",
    "hOHAZARD SIGNmRDbTHDAY CAKElSONdTCOIN SIGNjING LIPjLACK BOWTIEgCENTRE WHITE STARqHESS BISHOP",
    "a ROTATED NINETY DEGREESoTWO HUNDRED SEVENTY DEGREESzrEQUIHOPPERa ROTATED NINETY DEGREESziKI",
    "NGa ROTATED NINETY DEGREESoTWO HUNDRED SEVENTY DEGREESzoNIGHTa ROTATED FORTY-FIVE DEGREESsNI",
    "NETY DEGREESoONE HUNDRED THIRTY-FIVE DEGREESzgTHREE HUNDRED FIFTEEN DEGREESzdWO HUNDRED SEVE",
    "NTY DEGREESpTWENTY-FIVE DEGREESzp-BISHOPgQUEENfROOKlPAWNa ROTATED NINETY DEGREESoTWO HUNDRED",
    " SEVENTY DEGREESzpQUEENa ROTATED NINETY DEGREESoTWO HUNDRED SEVENTY DEGREESzqROOKa ROTATED N",
    "INETY DEGREESoTWO HUNDRED SEVENTY DEGREESzpTURNED BISHOPgKINGdNIGHTgPAWNeQUEENfROOKqIRCLEa F",
    "OR RECORDkWITH DOWN ARROWkTWO WHITE DOTSoWHITE DOT RIGHTzbLUB SUITiROSS ON SHIELDoURVED DOWN",
    "WARDS AND LEFTWARDS ARROWpRIGHTWARDS ARROWzfLEFTWARDS AND DOWNWARDS ARROWpUPWARDS ARROWzcRIG",
    "HTWARDS AND DOWNWARDS ARROWpUPWARDS ARROWzdUPWARDS AND LEFTWARDS ARROWpRIGHTWARDS ARROWzkDIA",
    "MONDa CENTREDhMINUS WHITE XnON CROSSiSUITeWITH DOWN ARROWwOWN POINTING BACKHAND INDEXy-POINT",
    "ING DOUBLE TRIANGLEpISOSCELES RIGHT TRIANGLEySMALL TRIANGLEoTRIANGLEsWARDS EQUILATERAL ARROW",
    "HEADzfRAUGHTS KINGeMANkOPLEThFLAGcORETTEhOLDEReUR POINTED STARrHARD SHELL FLOPPY DISKvEARTa ",
    "SUITiXAGONgORIZONTAL ELLIPSEqURGLASSjLARGE CIRCLEgSQUARElEFT LANE MERGEkPOINTING BACKHAND IN",
    "DEXoINDEXp-POINTING DOUBLE TRIANGLEa WITH VERTICAL BARziISOSCELES RIGHT TRIANGLEyPOINTERhSMA",
    "LL TRIANGLEoTRIANGLEsWARDS BULLETgEQUILATERAL ARROWHEADzfOWER LEFT TRIANGLEnRIGHT TRIANGLEsZ",
    "ENGEhMEDIUM DIAMONDgOWN-POINTING TRIANGLEa CENTREDzfLEFT-POINTING TRIANGLEa CENTREDzeOZENGEh",
    "RIGHT-POINTING TRIANGLEa CENTREDzgSMALL DIAMONDhLOZENGEhSQUARElQUAREgUP-POINTING TRIANGLEa C",
    "ENTREDzjOON LILITHlNIBdOCTAGONhPARALLELOGRAMmENNANTeTAGONhUSHPINhQUESTION MARK ORNAMENTwRECT",
    "ANGLEiIGHT POINTING BACKHAND INDEXoINDEXp-POINTING DOUBLE TRIANGLEa WITH VERTICAL BARziISOSC",
    "ELES RIGHT TRIANGLEyPENTAGONhOINTERhSMALL TRIANGLEoTRIANGLEa WITH DOUBLE VERTICAL BARzsWARDS",
    " ARROWaHEADjBULLETgEQUILATERAL ARROWHEADzgOSETTEhSAFETY SCISSORSoCISSORShHOGI PIECEkKULL AND",
    " CROSSBONEStLIGHTLY SMALL CIRCLEgSQUAREuMALL DIAMONDhLOZENGEhSQUAREfTARiILING FACElNOWMANgPA",
    "DE SUITjQUAREa BUTTONgCENTREDhFOR STOPoTARdUN WITH RAYSnTELEPHONEiINY DIAMONDhLOZENGEhSQUARE",
    "kOUCHTONE TELEPHONEsRUCKeWO-WAY LEFT WAY TRAFFICyUNIVERSAL RECYCLING SYMBOLzP POINTING BACKH",
    "AND INDEXy-POINTING DOUBLE TRIANGLEpISOSCELES RIGHT TRIANGLEySMALL TRIANGLEoTRIANGLEsPER LEF",
    "T TRIANGLEnRIGHT TRIANGLEsWARDS EQUILATERAL ARROWHEADzeVERTICAL ELLIPSEhRECTANGLEpY SMALL DI",
    "AMONDhLOZENGEhSQUAREs-FEATHERED NORTH EAST ARROWqRIGHTWARDS ARROWqSOUTH EAST ARROWzbLETTER C",
    "APITAL CbHbIbRbZtNK SYMBOLkOCK SEXTANT-1a2a3a4a5b6c5a6c6c4a5a6c6c5a6c6c3a4a5a6c6c56c6c4a5a6c",
    "6c5a6c6c2a3a4a5a6c6c5a6c6c4a5a6d5a6c6c3a4a5a6c6c5a6c6c4a5a6c6c5a6c6mSSOMeWFISHgUE BOOKeHEART",
    "gBERRIESkOARcLD EIGHT SPOKED ASTERISKvFIVE SPOKED ASTERISKuGREEK CROSSlSALTIREgIX SPOKED AST",
    "ERISKtWHITE CIRCLEgSQUAREpMaBcNEcOKaMARKa TABSjScMERANGhPOMOFO FINAL LETTER GbHbKbPbToLETTER",
    " AaHbIaNNdMbNaGbNcUaNNeBaUcCaHcDbEaEbHbIbNaGbNcRcFbGaHbNbUbWcHbIaHbMbNNaNdRbUcJaIcKaWcLaHcMb",
    "NaGaGcNcOa WITH DOT ABOVEpEbMbNGbNcObUcPbQbRbSaHcTbUaNNdVbXbZaHbIbYqTTLE WITH POPPING CORKuO",
    "M ARC ANTICLOCKWISE ARROWxCURLY BRACKETnHALF BLACK CIRCLEmINTEGRALiLEFT PARENTHESISqRIGHT PA",
    "RENTHESISwLEFT CORNERfROPeHALF BRACKETrPARENTHESISlRIGHT CORNERfROPeHALF BRACKETsSQUARE BRAC",
    "KETa OVER TOP SQUARE BRACKETznTORTOISE SHELL BRACKETzcUQUETa OF FLOWERSqW AND ARROWkL OF HYG",
    "IEIAkWITH SPOONlINGeTIEa WITH LEFT HALF BLACKpRIGHT HALF BLACKzbX DRAWINGS DOUBLE DOWN AND H",
    "ORIZONTALkLEFTeRIGHToHORIZONTALkUP AND HORIZONTALkLEFTeRIGHTmVERTICALa AND HORIZONTALkLEFTeR",
    "IGHTxWN DOUBLE AND HORIZONTAL SINGLErLEFT SINGLElRIGHT SINGLExHEAVY AND HORIZONTAL LIGHTqLEF",
    "T LIGHTfUP LIGHTnRIGHT LIGHTfUP LIGHToUP HORIZONTAL LIGHTzeLIGHT AND HORIZONTAL HEAVYqLEFT H",
    "EAVYfUP HEAVYnRIGHT HEAVYfUP HEAVYoUP HORIZONTAL HEAVYzeSINGLE AND HORIZONTAL DOUBLErLEFT DO",
    "UBLElRIGHT DOUBLEzdHEAVY DOUBLE DASH HORIZONTALkVERTICALsWNa AND HORIZONTALkLEFTeRIGHToHORIZ",
    "ONTALkLEFTa AND LIGHT RIGHTuQUADRUPLE DASH HORIZONTALkVERTICALxRIGHTfTRIPLE DASH HORIZONTALk",
    "VERTICALuUPa AND HORIZONTALkLEFTdIGHT DOWNkRIGHTmVERTICALa AND HORIZONTALkLEFTeRIGHTyLEFT DO",
    "WN HEAVY AND RIGHT UP LIGHTzeHEAVY AND RIGHT DOWN LIGHTkUP LIGHTiVERTICAL LIGHTzfLIGHT AND R",
    "IGHT DOWN HEAVYkUP HEAVYiVERTICAL HEAVYzfUP HEAVY AND RIGHT DOWN LIGHTziIGHT ARC DOWN AND LE",
    "FTeRIGHToUP AND LEFTeRIGHTqDIAGONAL CROSSfDIAMONDhMIDDLE LEFT TO LOWER CENTREa TO MIDDLE RIG",
    "HTzdUPPER CENTRE TO MIDDLE RIGHTa TO LOWER CENTREzzcRIGHT TO LOWER CENTREmUPPER CENTRE TO MI",
    "DDLE LEFT TO LOWER CENTREzzjUPPER CENTRE TO MIDDLE LEFTa AND MIDDLE RIGHT TO LOWER CENTREzhT",
    "O LOWER CENTREa TO MIDDLE RIGHTzlRIGHTa AND MIDDLE LEFT TO LOWER CENTREzgTO LOWER CENTREa TO",
    " MIDDLE LEFTzzdLEFT TO LOWER RIGHTtRIGHT TO LOWER LEFTziOUBLE DASH HORIZONTALkVERTICALsWNa A",
    "ND HORIZONTALkLEFTeRIGHToHORIZONTALa WITH VERTICAL STROKEzgLEFTa AND HEAVY RIGHTuQUADRUPLE D",
    "ASH HORIZONTALkVERTICALxRIGHTfTRIPLE DASH HORIZONTALkVERTICALuUPa AND HEAVY DOWNjORIZONTALkL",
    "EFTeRIGHTmVERTICALa AND HORIZONTALkLEFTeRIGHTyRIGHT DOWN HEAVY AND LEFT UP LIGHTzdHEAVY AND ",
    "LEFT DOWN LIGHTkUP LIGHTiVERTICAL LIGHTzeLIGHT AND LEFT DOWN HEAVYkUP HEAVYiVERTICAL HEAVYze",
    "UP HEAVY AND LEFT DOWN LIGHTzjUP DOUBLE AND HORIZONTAL SINGLErLEFT SINGLElRIGHT SINGLExHEAVY",
    " AND DOWN HORIZONTAL LIGHTvHORIZONTAL LIGHTqLEFT DOWN LIGHTkLIGHTkRIGHT DOWN LIGHTkLIGHTvLIG",
    "HT AND DOWN HORIZONTAL HEAVYvHORIZONTAL HEAVYqLEFT DOWN HEAVYkHEAVYkRIGHT DOWN HEAVYkHEAVYvS",
    "INGLE AND HORIZONTAL DOUBLErLEFT DOUBLElRIGHT DOUBLEzbVERTICAL DOUBLE AND HORIZONTAL SINGLEr",
    "LEFT SINGLElRIGHT SINGLExHEAVY AND HORIZONTAL LIGHTqLEFT LIGHTkRIGHT LIGHTvLIGHT AND HORIZON",
    "TAL HEAVYqLEFT HEAVYkRIGHT HEAVYvSINGLE AND HORIZONTAL DOUBLErLEFT DOUBLElRIGHT DOUBLEzrING ",
    "GLOVEkYaS SYMBOLkPHcRAHMI DANDAeIGIT EIGHTfFIVEdOUReNINEeONEdSEVENeIXdTHREEeWOdZEROjOUBLE DA",
    "NDAmLETTER AaAbIbUcBAbHAdCAbHAdDAbDAbHAdHAdEbGAbHAdHAcIaIcJAbHAdKAbHAdLAbLAdMAcNAbGAcNAcYAdO",
    "aLD TAMIL LLAbLAeNNNAeRRAdSHORT EbOrPAbHAdRAcSAbHAcSAdTAbHAcTAbHAeUaUcVAbOCALIC LaLcRaRkYAjN",
    "UMBER EIGHTaYgFIFTYdVEdORTYdUReJOINERgNINEaTYgONEa HUNDREDhTHOUSANDmSEVENaTYgIXaTYfTENcHIRTY",
    "eREEeWENTYeOkPUNCTUATION CRESCENT BARmDOTbUBLE DOTkLINEdOTUSrSIGN ANUSVARAiCANDRABINDUlJIHVA",
    "MULIYAlOLD TAMIL VIRAMAqUPADHMANIYAlVISARGAmVIRAMAfOWEL SIGN AAbIbUcBHATTIPROLU AAoEbIaIcOaL",
    "D TAMIL SHORT EbOrUaUcVOCALIC LaLcRaRzILLE PATTERN BLANKfDOTS-1a2a3a4a5a6a7a8c8c7a8c8c6a7a8c",
    "8c7a8c8c5a6a7a8c8c7a8c8c6a7a8c8c7a8c8c4a5a6a7a8c8c7a8c8c6a7a8c8c7a8c8c5a6a7a8c8c7a8c8c6a7a8c",
    "8c7a8c8c3a4a5a6a7a8c8c7a8c8c6a7a8c8c7a8c8c5a6a7a8c8c7a8c8c6a7a8c8c7a8c8c4a5a6a7a8c8c7a8c8c6a",
    "7a8c8c7a8c8c5a6a7a8c8c7a8c8c6a7a8c8c7a8c8c2a3a4a5a6a7a8c8c7a8c8c6a7a8c8c7a8c8c5a6a7a8c8c7a8c",
    "8c6a7a8c8c7a8c8c4a5a6a7a8c8c7a8c8c6a7a8c8c7a8c8c5a6a7a8c8c7a8c8c6a7a8c8c7a8c8c3a4a5a6a7a8c8c",
    "7a8c8c6a7a8c8c7a8c8c5a6a7a8c8c7a8c8c6a7a8c8c7a8c8c4a5a6a7a8c8c7a8c8c6a7a8c8c7a8c8c5a6a7a8c8c",
    "7a8c8c6a7a8c8c7a8c8sNdEADbK PERMITTED HEREqST-FEEDINGlVEdICKcDE WITH VEILlGE AT NIGHTmEFCASE",
    "eSeOCCOLIfKEN BARdCIRCLE WITH NORTHWEST ARROWzcHEARTjOMcWN HEARTkSbUBBLE TEAeSfCKETeGaINESE ",
    "END OF SECTIONoLETTER AbBAcCAcDAcGAcHAcJAcKAcLAcMAbPAdNAbGAbKAdRAcYAbCAePAcRAcSAcTAcVAcYAjPA",
    "LLAWAhVOWEL SIGN AEcEbIbObUtHID LETTER AbBAcDAcGAcHAcIbKAcLAcMAcNAbGAdPAcRAcSAcTAcUbWAcYAjVO",
    "WEL SIGN IbUqILDING CONSTRUCTIONtLLETa OPERATORlHORNa WITH SOUND WAVESvSEYEgRRITOfSa STOPfT ",
    "IN SILHOUETTEoS IN SILHOUETTErTTERaFLYiYTE ORDER MARKnZANTINE MUSICAL SYMBOL AGOGI ARGIbOTER",
    "IiGORGIbOTERIjMESIcTRIAgPOLI ARGIeGORGIpNATRICHISMAkTIKENOKYLISMAhMAjPESO EKFONITIKONkXO NEO",
    "lLIcODERMA ARCHAIONiNEOjSTROFOI SYNDESMOS NEOnTELOUS ICHIMATOSsSa DIPLIfNEOlTHEMAhRGONbSYNTH",
    "ETONlKTIKO DIcGAcKEcNIcPAcVOUdZOkCHAMILIbONgOREVMA ARCHAIONiNEOkROA KLITONgSPATHIgZYGOSlDASE",
    "IAfIARGONeSTOLI APLI MEGALIfIKRIkDIPLIfTHESEOSoESIS APLI DYO DODEKATArDIGRAMMOS EX DODEKATAv",
    "MONOGRAMMOS TESSERA DODEKATAzdTETARTIMORIONmRIGRAMMOS OKTO DODEKATAvTIMORIONqFTOGGOS OUkGORG",
    "ONa PARESTIGMENON ARISTERA ANOdKATOnDEXIAzRAMMA GGjPLIa ARCHAIONnYOdEKSTREPTONjLAFRONgNARXIS",
    " KAI FTHORA VOUuDOFONONiPEGERMAhTERON ARGOSYNTHETONnPARAKALESMArXO EKFONITIKONpFANEROSIS DIF",
    "ONIASiMONOFONIASkTETRAFONIASuHTORA SKLIRON CHROMA VASISzbTHORA ARCHAIONa DEYTEROU ICHOUxDIAT",
    "ONIKI DIcKEcNANAdI ANOdKATOhPAcZOmENARMONIOS ANTIFONIAuI YFESIS TETARTIMORIONwMALAKON CHROMA",
    " DIFONIASiMONOFONIASzNAOS ICHOSjENANOgSKLIRON CHROMA SYNAFIgVASISmDIATONON DIzbGENIKI DIESIS",
    "gYFESISmORGON ARCHAIONiNEO ANOdKATOiPARESTIGMENON ARISTERAiDEXIAvSYNTHETONlTHMIKON N APLOUNg",
    "DIPLOUNtRONTHISMATAmICHADINgMIDIARGONhFONONeTHORAbONjSAKIA TELOUS ICHIMATOSvON ARCHAIONiNEOi",
    "KATAVA TROMIKONjSMAgHISTIhENTIMA ARCHAIONiNEO ANOdKATOeMESOjTAa ARCHAIONiNEO ANOdKATOeMESOrL",
    "ASMAa ANOdKATOkONTEVMAa ALLOlRONISfUFISMAhRATIMA ALLOdRCHAIONiNEOeTAdOKOUFISMAiYPORROONnEMAS",
    "TIhYLISMAhLEIMMA DYO CHRONONlENOS CHRONOUmIMISEOS CHRONOUpTESSARON CHRONONpRION CHRONONsMOIe",
    "YGISMAhMARTYRIA ALLI DEYTEROS ICHOSoPROTOS ICHOSrDEYTEROS ICHOSoLEGETOS ICHOSnPLAGIOS ICHOSf",
    "TETARTOS ICHOSvROTOS ICHOShVARYS ICHOSqTETARTOS ICHOSfLEGETOS ICHOSvRIFONIASgTOS ICHOSmVARYS",
    " ICHOStIKRON ISONlNANAeOLIGON ARCHAIONiNEOjMALONfXEIA DIPLIfEKFONITIKONlNEOeI ARCHAIONoYRANI",
    "SMA ARCHAIONiNEOnPARAKALESMA ARCHAIONiNEOkLITIKIa ARCHAIONiNEOmICHONhELASTONa NEOkRISPOMENIj",
    "TASMAcTIbOKOUFISMAoIASMA ARCHAIONiNEOjSIFISTOLYGISMAhNa NEOfPARAKALESMAlSYNAGMAmLIbONgRAPISM",
    "AgEVMAfSAXIMATAhEISMAa NEOjIMANSIS ARSEOSa DISIMOUhTETRASIMOUjRISIMOUpTHESEOSa DISIMOUhTETRA",
    "SIMOUjRISIMOUyTAVROSa APODEXIAoIGMAeRAGGISMATAlYNAGMA ARCHAIONiMETA STAVROUmNEOiEVMAfRMAaTIK",
    "IjTELEIAeSSERAfTRAPLIhHEMAa APLOUNhTISMOS ESOcXOmS KAI APOTHESoITAeINAGMAgRIAbGORGONgPLIeOMI",
    "KOLYGISMAhN ALLOdRCHAIONiNEOfPARAKALESMAkSIFISTONjSYNAGMAoVAREIA DIPLIfEKFONITIKONlNEOeI ARC",
    "HAIONoTHYfXIRON KLASMAmYFEN ANOdKATOgSIS APLI DYO DODEKATArDIGRAMMOS EX DODEKATAvMONOGRAMMOS",
    " TESSERA DODEKATAzdTRIGRAMMOS OKTO DODEKATAvTIMORIONrPOKRISISa DIPLImRROIfSILIzgCACTUSeDA UN",
    "AfUCEUSgLENDARfL ME HANDkMERAa WITH FLASHoPINGfNaADIAN SYLLABICS AaAaIbYcIaVILIK BiNbTHAPASC",
    "AN MbSlYcBEAVER DENE LbRmIBLE-CREE YlLACKFOOT AbEbIbKAbEbIbOcNAbEbIbOcObSbWaAbEbIbOmCaAaAaIc",
    "RRIER CHAbEaEcIbObUdDEEbNE GEEfTAL ShIbLAbEaEcIbObUcZAbEaEcIbObUdEEcGAaAcEaEcHAbEaEcIbObUcIb",
    "ObUbWAbUdHaEEcIbWAbEaEcIbObUdIaNITIAL ZjJAbEaEcIbJAbEaEcIbObUcObUbWAdKHAbEaEcIbObUcKaAbEaEcI",
    "bObUdLAbEaEcHAbEaEcIbObUcIbObUcMAbEaEcIbObUcNAbEaEcGbIbObUcPaAbEaEcIbObUcRAbEaEcIbObUcSAbEaE",
    "cHaAbEaEcIbObUcIbObUcTHAbEaEcIbObUcLAbEaEcHAbEaEcIbObUcIbObUcSAbEaEcIbObUcTAbEaEcIbObSAbEaEc",
    "IbObUcUdWAbEaEcIbObUcYAbEaEcIbObUcZaAbEaEcIbObUjEbHI SIGNhIaIcOaOcWAaAcEbIaIcOaOeEaASTERN Wi",
    "NcFaAaAaIdEbIaIbNAL ACUTEfBOTTOM HALF RINGqDOUBLE ACUTEfSHORT VERTICAL STROKESzcWN TACKjGRAV",
    "EfMIDDLE DOTkPLUSeRAISED DOTjIGHT HALF RINGnNGeSHORT HORIZONTAL STROKEwMALL RINGkTOP HALF RI",
    "NGsOaOcULL STOPiWAAeGLOTTAL STOPmHKbYPHENgIaIbNcKaAaAaIcYcEbIaIcOaOcWaAaAbYcEbIaIcOaOeLaAaAa",
    "IcYcEbHaAaAcIaIcOaOdIaIcOaOcWAaAcEbIaIcOaOeMaAaAaIcYcEaDIAL LbRhHbIaIcOaOaSE-CREE SKmWAaAcEb",
    "IaIcOaOeNa-CREE THEbIaIkAaAaIcSKAPI CWAAeKWAAeMWAAeNWAAeS-WcCWAdKWaAdPWAdTWAdWAAeTWAAeWAAcOO",
    "dYWAAkTTILIK HAaAcIaIcOaOdSHRAaAcIaIcOaOmYcEbGaAaAaIcIcIaIcOaOdHbIaIcNGaAaAcIaIcOaOeOaObYcUN",
    "AVIK HaAaAcEbIaIcOaOgUT HiWAaAcEbIaIcOaOeOaJIBWAY CbKbMbNaWIaIcOaOePbSaHcTiNbObYcPaAaAaIcYcE",
    "bIaIcOaObYcWAaAcEbIaIcOaObYeQaAaAaIcIcIaIcOaOdRa-CREE REbWEjAaAaIcYcEbIaIcOaOcWAaAcEEcIaIcOa",
    "OeSaAaAaIcYaISI HAbEbIbOaOdJIbUaUdMbSHAbEbIbOaOcWEeTHcYIiEbHaAaAbYcEbIaIcOaObYcWAaAcEbIaIcOa",
    "ObYeIaIcOaObUTH-SLAVEY KAHcEHcIHcOHoYcPAbEbIbOcWaAaAcEbIaIcOaOeTaAaAaIcYcEbHa-CREE THaAaAcEb",
    "IaIcOaOkAaAcEbIaIcOaOcWAaAcEdIaIcLHAbEbIbOaOcWEeOaOcTAbEbHaAaAcEbIbOaOcWEdIbOcWAaAcEbIaIcOaO",
    "dYAbEbIbOdWAaAbYcEaST-CREE CWAaAcEbIaIcOaOeFWAAeKWAaAcEbIaIcOaOeLaAaAcEbOaOcWAaAcEbIaIcOaOeM",
    "aWAaAcEbIaIcOaOeNWAaAcEdPaWAaAcEbIaIcOaOeRaAbEbIbObWAAeSHWAaAcEbIaIcOaOeWAaAcEbIaIcOaOeTHWAA",
    "eWAaAcEbIaIcOaOeWAaAcEbIaIcOaOdYaWAaAcEbIaIcOaOkERN WiIaIcOaOaDS-CREE FINAL THiTHaAbEbIbObWA",
    "aAcEEcIaIcOaOqYa-CREE COOdKOOdLOOdMOOdNOOdOOcPOOcWAAeSOOdTOOdWbYOOjAaAaIcYcEbIaIcOaObYcWAaAc",
    "EbIaIcOaOuCELa CHARACTERjTAGeLATION XjRdDLEcYcNED FOODiOEdPITULUMgRICORNhR SLIDINGiD FILE BO",
    "XiINDEXa DIVIDERSqE OFdTa INSERTION POINTsIAN LETTER Aa2cBbC-18c39eDa2cEa2cGa2cIaIcKa2cLaDa2",
    "dMaBa2b3b4dNaDbGbNcObPa2cQbRaRcSaHa2cSbTa2dTaTa2dUaUaUa2b3bUeXmONbUSEL HORSElP STREAMERjENTR",
    "Y SAWkRIAGE RETURNlOTeSTLEeTa FACEa WITH TEARS OF JOYmWRY SMILEvUCASIAN ALBANIAN CITATION MA",
    "RKnLETTER ALTcORdBETdCARbYNdHAaTcIbOYdYAWbYeDATcYANdZAYcYAYfEBbYNdFAMdGHEYSeIMdHEYTeINYAdRBc",
    "WNdJAYNdHOXeKARcIWdLANcYITeMAQdNOWCeONcPENcIWReQARbYdRATdSEYKdHAaKcOYeTAScIWRdYAYeVEYZeXEYNe",
    "YAYDdOWDeZARLdHAbILzcTION SIGNlCHcEDI SIGNfLLAfLTIC CROSSkNT SIGNfRE LINE SYMBOLmLINE LOW LI",
    "NEiOVERLINErRESeGJcHAINScRcKMA AU MARKhDANDAeIGIT EIGHTfFIVEdOUReNINEeONEdSEVENeIXdTHREEeWOd",
    "ZEROjOUBLE DANDAmLETTER AAcBAAcHAAeCAAcHAAeDAAcDAAcHAAeHAAeEbGAAcHAAeHAAdIbJAAcHAAeKAAcHAAeL",
    "AAcHAAeMAAdNAAcGAAdNAAdYAAePAAcHAAeRAAdSAAdTAAcHAAdTAAcHAAfUbVAAdWAAdYAAcYAAlMAAYYAAhO MARKg",
    "QUESTION MARKnSECTION MARKlIGN ANUSVARAiCANDRABINDUlVISARGAmVIRAMAfOWEL SIGN AaAbIbUcEaIcIaI",
    "cOaIcUaUrM CONSONANT SIGN FINAL HbMbNGiLAcRAcWAcYArDIGIT EIGHTfFIVEdOUReNINEeONEdSEVENeIXdTH",
    "REEeWOdZEROkLETTER AaIcBAbBAcHAdCHAbHAeDAbDAcHAdEbFINAL CHcGbKbLbNaGcPbRbSScTbYhGAbHAdHAcIbJ",
    "AbHAdKAbHAdLAcMAbUEdNAbGAbUEdHAbJAcUEdUEdObPAbHAcPAdRAcSAbSAdTAbHAdUbVAcYAjPUNCTUATION DANDA",
    "eOUBLE DANDAmSPIRALgTRIPLE DANDAyVOWEL SIGN AAbIbUcEIcIaIcOaEcUaEpRACTER TABULATIONa SETdWIT",
    "H JUSTIFICATIONzdIEjT WITH DOWNWARDS TRENDpUPWARDS TRENDa AND YEN SIGNzkECK MARKfER BOARDa F",
    "ILLpERING MEGAPHONEoSE WEDGEjQUERED FLAGlROKEE LETTER AbDAbEbIbLAcObUbVcEbGAbEbIbObUbVcHAbEb",
    "IbNAcObUbVcIbKAcLAbEbIbObUbVcMAbEbIbObUbVcNAaHcEbIbObUbVcObQUAbEbIbObUbVdSaAbEbIbObUbVcTAbEb",
    "IbLAbEbIbObUbVcSAbEbIbObUbVdUbVbWAbEbIbObUbVcYAbEbIbObUbVjSMALL LETTER AbDAbEbIbLAcObUbVcEbG",
    "AbEbIbObUbVcHAbEbIbNAcObUbVcIbKAcLAbEbIbObUbVcMAbEbIbObUbVcNAaHcEbIbObUbVcObQUAbEbIbObUbVdSa",
    "AbEbIbObUbVcTAbEbIbLAbEbIbObUbVcSAbEbIbObUbVdUbVbWAbEbIbObUbVcYAbEbIbObUbVuRIESdY BLOSSOMlST",
    "NUTgI RHOeCKENeLDaREN CROSSINGoPMUNKfRONeOCOLATE BARkPSTICKShRASMIAN LETTER ALEPHeYINeBETHeC",
    "URLED WAWkDALETHgGIMELfHEaTHeKAPHeLAMEDHgMEMdNUNdPEcRESHeSAMEKHfHINdMALL ALEPHlTAWdWAWdYODHe",
    "ZAYINmNUMBER FOUReONEa HUNDREDlTENcHREEeWENTYeOtRISTMAS TREEmURCHfINEMAeRCLE DIVIDED BY HORI",
    "ZONTAL BAR AND TOP HALF DIVIDED BY VERTICAL BARzzmWITH ALL BUT UPPER LEFT QUADRANT BLACKziHO",
    "RIZONTAL BARoLEFT HALF BLACKoOWER HALF BLACKqRIGHT HALF BLACKqSMALL CIRCLE TO THE RIGHTyUPER",
    "IMPOSED XoTWO HORIZONTAL STROKES TO THE RIGHTzkUPPER HALF BLACKkRIGHT QUADRANT BLACKzbVERTIC",
    "AL FILLtD ANTICLOCKWISE ARROWg-ROTATED DIVISION SIGNzjSTERISK OPERATORrBOLD XfULLETgC WITH O",
    "VERLAID BACKSLASHyCbDbROSS FORMEEa WITH FOUR DOTSjTWO DOTSuPOMMEEhING LANESoDASHdIGIT EIGHTf",
    "FIVEdOUReNINEeONEdSEVENeIXdTHREEeWOdZEROiVISION SIGNdLASHnOLLAR SIGN WITH OVERLAID BACKSLASH",
    "ziT OPERATORmEQUALSgGREATER-THANmHANGUL CHIEUCHa AiIEUCa AhHIEUHa AhIEUNGa AbUhKHIEUKHa AiIY",
    "EOKa AiMIEUMa AhNIEUNa AhPHIEUPHa AiIEUPa AhRIEULa AhSIOSa AgTHIEUTHa AiIKEUTa AoEAVY WHITE ",
    "RIGHTWARDS ARROWzcORIZONTAL BAR WITH NOTCHyUMAN FIGUREmIDEOGRAPH ACCEPTfDVANTAGEiLLIANCEhTTE",
    "NTIONjCENTREfONGRATULATIONmPYcRRECThEARTHeIGHTeNTERPRISEjXCELLENTjFEMALEfINANCIALhREcVEdOURe",
    "HAVEdIGHeITEMeKINDERGARTENlOTOeLABOReEFTdOWdMALEdEDICINEgTALeOONeNAMEdIGHTdNEeONEdPRINTfQUES",
    "TIONiRELIGIONgSOURCEfTdIGHTfSCHOOLfECRETeVENeIXcOCIETYgPECIALgTOCKdUDYeUITABLEgNbPERVISEjTEN",
    "cHREEeWOdWATEReOODnNFORMATION SOURCErTALIC LATIN CAPITAL LETTER CbRzeKATAKANA AbEbHAbEbIbObU",
    "cIbKAbEbIbObUcMAbEbIbObUcNAbEbIbObUcObRAbEbIbObUcSAbEbIbObUcTAbEbIbObUcUbWAbEbIbOcYAbObUkORE",
    "AN CHARACTER CHAMKOgJUEUIwLATIN CAPITAL LETTER AbBbCbDbEbFbGbHbIbJbKbLbMbNbObPbQbRbSbTbUbVbW",
    "bXbYbZqSMALL LETTER AbBbCbDbEbFbGbHbIbJbKbLbMbNbObPbQbRbSbTbUbVbWbXbYbZtESS-THANjMINUSeULTIP",
    "LICATION SIGN WITH CIRCUMFLEX ACCENTzrNUMBER EIGHTEENdY ON BLACK SQUAREvLEVENgFIFTEENdYa ON ",
    "BLACK SQUAREuORTYa EIGHTfFIVEdOUReNINEeON BLACK SQUAREnEdSEVENeIXdTHREEeWOhURTEENiNINETEENiS",
    "EVENTEENdY ON BLACK SQUAREwIXTEENdY ON BLACK SQUAREvTENa ON BLACK SQUAREsHIRTEENdYa EIGHTfFI",
    "VEdOUReNINEeON BLACK SQUAREnEdSEVENeIXdTHREEeWOjWELVEdNTYa EIGHTfFIVEdOUReNINEeON BLACK SQUA",
    "REnEdSEVENeIXdTHREEeWOrOPEN CENTRE EIGHT POINTED STARzfPARALLELhERPENDICULARmLUSdOSTAL MARKl",
    "REVERSE SOLIDUSoING OPERATORnSQUAREgTIMESeRIANGLEa DOWNnVERTICAL BARmWHITE BULLETgSTARjZcXbZ",
    "ERO WITH SLASHtULATION FUNCTIONpMFLEX ACCENTmS TENTjTYSCAPEa AT DUSKqJK COMPATIBILITY IDEOGR",
    "APH-2F800b1b2b3b4b5b6b7b8b9bAbBbCbDbEbFc10b1b2b3b4b5b6b7b8b9bAbBbCbDbEbFc20b1b2b3b4b5b6b7b8b",
    "9bAbBbCbDbEbFc30b1b2b3b4b5b6b7b8b9bAbBbCbDbEbFc40b1b2b3b4b5b6b7b8b9bAbBbCbDbEbFc50b1b2b3b4b5",
    "b6b7b8b9bAbBbCbDbEbFc60b1b2b3b4b5b6b7b8b9bAbBbCbDbEbFc70b1b2b3b4b5b6b7b8b9bAbBbCbDbEbFc80b1b",
    "2b3b4b5b6b7b8b9bAbBbCbDbEbFc90b1b2b3b4b5b6b7b8b9bAbBbCbDbEbFcA0b1b2b3b4b5b6b7b8b9bAbBbCbDbEb",
    "FcB0b1b2b3b4b5b6b7b8b9bAbBbCbDbEbFcC0b1b2b3b4b5b6b7b8b9bAbBbCbDbEbFcD0b1b2b3b4b5b6b7b8b9bAbB",
    "bCbDbEbFcE0b1b2b3b4b5b6b7b8b9bAbBbCbDbEbFcF0b1b2b3b4b5b6b7b8b9bAbBbCbDbEbFd900b1b2b3b4b5b6b7",
    "b8b9bAbBbCbDbEbFc10b1b2b3b4b5b6b7b8b9bAbBbCbDbEbFc20b1b2b3b4b5b6b7b8b9bAbBbCbDbEbFc30b1b2b3b",
    "4b5b6b7b8b9bAbBbCbDbEbFc40b1b2b3b4b5b6b7b8b9bAbBbCbDbEbFc50b1b2b3b4b5b6b7b8b9bAbBbCbDbEbFc60",
    "b1b2b3b4b5b6b7b8b9bAbBbCbDbEbFc70b1b2b3b4b5b6b7b8b9bAbBbCbDbEbFc80b1b2b3b4b5b6b7b8b9bAbBbCbD",
    "bEbFc90b1b2b3b4b5b6b7b8b9bAbBbCbDbEbFcA0b1b2b3b4b5b6b7b8b9bAbBbCbDbEbFcB0b1b2b3b4b5b6b7b8b9b",
    "AbBbCbDbEbFcC0b1b2b3b4b5b6b7b8b9bAbBbCbDbEbFcD0b1b2b3b4b5b6b7b8b9bAbBbCbDbEbFcE0b1b2b3b4b5b6",
    "b7b8b9bAbBbCbDbEbFcF0b1b2b3b4b5b6b7b8b9bAbBbCbDbEbFdA00b1b2b3b4b5b6b7b8b9bAbBbCbDbEbFc10b1b2",
    "b3b4b5b6b7b8b9bAbBbCbDfF900b1b2b3b4b5b6b7b8b9bAbBbCbDbEbFc10b1b2b3b4b5b6b7b8b9bAbBbCbDbEbFc2",
    "0b1b2b3b4b5b6b7b8b9bAbBbCbDbEbFc30b1b2b3b4b5b6b7b8b9bAbBbCbDbEbFc40b1b2b3b4b5b6b7b8b9bAbBbCb",
    "DbEbFc50b1b2b3b4b5b6b7b8b9bAbBbCbDbEbFc60b1b2b3b4b5b6b7b8b9bAbBbCbDbEbFc70b1b2b3b4b5b6b7b8b9",
    "bAbBbCbDbEbFc80b1b2b3b4b5b6b7b8b9bAbBbCbDbEbFc90b1b2b3b4b5b6b7b8b9bAbBbCbDbEbFcA0b1b2b3b4b5b",
    "6b7b8b9bAbBbCbDbEbFcB0b1b2b3b4b5b6b7b8b9bAbBbCbDbEbFcC0b1b2b3b4b5b6b7b8b9bAbBbCbDbEbFcD0b1b2",
    "b3b4b5b6b7b8b9bAbBbCbDbEbFcE0b1b2b3b4b5b6b7b8b9bAbBbCbDbEbFcF0b1b2b3b4b5b6b7b8b9bAbBbCbDbEbF",
    "dA00b1b2b3b4b5b6b7b8b9bAbBbCbDbEbFc10b1b2b3b4b5b6b7b8b9bAbBbCbDbEbFc20b1b2b3b4b5b6b7b8b9bAbB",
    "bCbDbEbFc30b1b2b3b4b5b6b7b8b9bAbBbCbDbEbFc40b1b2b3b4b5b6b7b8b9bAbBbCbDbEbFc50b1b2b3b4b5b6b7b",
    "8b9bAbBbCbDbEbFc60b1b2b3b4b5b6b7b8b9bAbBbCbDc70b1b2b3b4b5b6b7b8b9bAbBbCbDbEbFc80b1b2b3b4b5b6",
    "b7b8b9bAbBbCbDbEbFc90b1b2b3b4b5b6b7b8b9bAbBbCbDbEbFcA0b1b2b3b4b5b6b7b8b9bAbBbCbDbEbFcB0b1b2b",
    "3b4b5b6b7b8b9bAbBbCbDbEbFcC0b1b2b3b4b5b6b7b8b9bAbBbCbDbEbFcD0b1b2b3b4b5b6b7b8b9zdRADICAL BAM",
    "BOOfLUEdOLT OF CLOTHlNEcXcRUSH ONEdTWOjC-SIMPLIFIED BIRDeCARTeDRAGONgEATcVENeFISHdLYcROGeGAT",
    "EdOLDeHORSEfLEAFdONGeSALTdEEcHELLeILKdPEECHgTANNED LEATHERnOOTHeURTLEgWINDqHOKEeITYcVILIANhL",
    "IFFdOTHESgOWdDEATHeIVINATIONjOGdEAT ONEdTHREEeWOgWEcYEdFIREdOOTeGHOSTeRASS ONEdTHREEeWOjHAND",
    "dEADbRT ONEdTWOiORNeJ-SIMPLIFIED DRAGONgEVENeTOOTHeURTLEsADEeKNIFE ONEdTWOjLAME FOUReONEdTHR",
    "EEeWOhONG ONEdTWOiMEATcSHdOONcRTAReTHEReUND ONEdTWOjNET FOUReONEdTHREEeWOhOLDdPAW ONEdTWOgER",
    "SONgRAINcMbPcEPEATgSEALcCOND ONEdTHREEeWOjHEEPeILKcMPLIFIED HALF TREE TRUNKoORNeWALKdHEATfYE",
    "LLOWqMALL ONEdTWOiNAKEdOUT ONEdTWOiPIRIT ONEdTWOjUNdTABLEeHREADfIGEReURTLEgWALK ONEdTWOgTER ",
    "ONEdTWOiEST ONEdTWOqSTROKE BXGdDbHaGbPaWGdXWGdZaGbTbWaGcZaPbZaGfNbPaDbGbZcQbSaGbPbTbWaGbZcZa",
    "WGcZdTaNcWGcXGmLAMSHELL MOBILE PHONEtPPER BOARDiING HANDS SIGNqSSICAL BUILDINGqEAR SCREEN SY",
    "MBOLrINKING BEER MUGSjGLASSESnPBOARDhOCK FACE EIGHT OCLOCKh-THIRTYlLEVEN OCLOCKh-THIRTYnFIVE",
    " OCLOCKh-THIRTYkOUR OCLOCKh-THIRTYlNINE OCLOCKh-THIRTYlONE OCLOCKh-THIRTYkSEVEN OCLOCKh-THIR",
    "TYlIX OCLOCKh-THIRTYkTEN OCLOCKh-THIRTYjHREE OCLOCKh-THIRTYlWELVE OCLOCKh-THIRTYlO OCLOCKh-T",
    "HIRTYqWISE CLOSED CIRCLE ARROWsONTOUR INTEGRALqDOWNWARDS AND UPWARDS OPEN CIRCLE ARROWSzpGAP",
    "PED CIRCLE ARROWtINTEGRALiOPEN CIRCLE ARROWrRIGHT AND LEFT SEMICIRCLE ARROWSzcWARDS AND LEFT",
    "WARDS OPEN CIRCLE ARROWSa WITH CIRCLED ONE OVERLAYzzsTOP SEMICIRCLE ARROWtRIANGLE-HEADED OPE",
    "N CIRCLE ARROWzpSE UPdD BOOKeINTERSECTION WITH SERIFSyLOCK WITH KEYnMAILBOX WITH LOWERED FLA",
    "GmRAISED FLAGySUBSETa OR EQUAL TOqPERSETa OR EQUAL TOuUMBRELLAhNION WITH SERIFSa AND SMASH P",
    "RODUCTzoUDa WITH LIGHTNINGjRAINeSNOWeTORNADOpWN FACEjOATcCKROACHfTAIL GLASSlONUTfFFINeINcLLI",
    "SION SYMBOLnONa EQUALSgSIGNiMBINING ACUTE ACCENTa BELOWmTONE MARKk-GRAVE-ACUTElMACRONlLMOST ",
    "EQUAL TO ABOVEfBELOWuNNUITY SYMBOLmTICLOCKWISE ARROW ABOVElRING OVERLAYzSTERISK ABOVEfBELOWo",
    "BINDU BELOWkREVEa BELOWg-MACRONkIDGE ABOVEfBELOWmCANDRABINDUjRONa BELOWkEDILLAgIRCUMFLEX ACC",
    "ENTa BELOWwLOCKWISE ARROW ABOVElRING OVERLAYvOMMA ABOVEa RIGHTlBELOWjNJOINING MACRONa BELOWw",
    "YRILLIC DASIA PNEUMATAoHUNDRED MILLIONS SIGNnTHOUSANDS SIGNwKAVYKAgLETTER AbBEbIG YUShCHEdDE",
    "bJERVfEFbLbMbNbRbSa-TEfFITAeGHEdHAaRD SIGNjIaEbOTIFIED AbBIG YUShEkKAcLITTLE YUSkMONOGRAPH U",
    "KmOaMEGAfPEcSHAbCHAeOFT SIGNjTEbSEdUaKRAINIAN IEmVEcYATcERUdIbUcZEbHEkMILLIONS SIGNnPALATALI",
    "ZATIONmYEROKgOKRYTIEhSILI PNEUMATAoTEN MILLIONS SIGNqHOUSAND MILLIONS SIGNvITLOa LEFT HALFjR",
    "IGHT HALFqVZMEToDELETION MARKlVANAGARI DIGIT EIGHTfFIVEdOUReNINEeONEdSEVENeIXdTHREEeWOdZEROk",
    "LETTER AbKAcNAcPAcRAcUbVIjSIGN AVAGRAHAxIAERESISa BELOWg-RINGnOT ABOVEa LEFTeRIGHTlBELOWa LE",
    "FTlTED ACUTE ACCENTmGRAVE ACCENTrUBLE ACUTE ACCENTmBREVEa BELOWlCIRCUMFLEX ABOVEqGRAVE ACCEN",
    "TmINVERTED BREVEa BELOWuLOW LINEiMACRONa BELOWmOPEN MARK BELOWoVERLINEiPARENTHESES ABOVEqLUS",
    " SIGN ABOVEfBELOWpRIGHTWARDS ARROW BELOWuNG BELOWkTILDEa LEFT HALFjRIGHT HALFqVERTICAL LINE ",
    "ABOVEfBELOWkSTROKE OVERLAYyD CIRCUMFLEX ACCENTxWN TACK BELOWlWARDS ARROWpENCLOSING CIRCLEa B",
    "ACKSLASHqDIAMONDhKEYCAPgSCREENfQUAREgUPWARD POINTING TRIANGLEziQUALS SIGN BELOWrFERMATAgOUR ",
    "DOTS ABOVEpGLAGOLITIC LETTER AZUdBIG YUSgUKYeCHRIVIgDJERVIfOBROfFITAdRITUfGLAGOLIhHERUeIaNIT",
    "IAL IZHElOTATED BIG YUShSMALL YUSqZHEeKAKOeLJUDIJEhMYSLITEhNASHIfONUdPOKOJIgRITSIfSHAbTAdLOV",
    "OeMALL YUSjTSIcVRIDOgUKUdVEDEeYATIdERIbUcSTUeObUcZEMLJAfHIVETEyRANTHA DIGIT FIVEdOUReONEdSIX",
    "dTHREEeWOdZEROkLETTER AbKAcNAcPAcVIoPHEME JOINERmVE ACCENTa BELOWmTONE MARKk-ACUTE-GRAVElMAC",
    "RONkEEK DIALYTIKA TONOSpKORONIShMUSICAL PENTASEMEjTETRASEMEiRISEMEpPERISPOMENIlYPOGEGRAMMENI",
    "tHOMOTHETIC ABOVEoOK ABOVEiRNeINFINITYgVERTED BREVEa BELOWjIDGE BELOWmDOUBLE ARCH ABOVEfBELO",
    "WzS BELOWiKATAKANA-HIRAGANA SEMI-VOICED SOUND MARKwVOICED SOUND MARKziVYKA ABOVE LEFTeRIGHTs",
    "LATIN LETTER SMALL CAPITAL GbLbMbNbRwSMALL LETTER Aa WITH DIAERESISpEbLPHAeObVcBaETAeCa CEDI",
    "LLAjDbEaSHcTHdFaLATTENED OPEN A ABOVEwGbHbIaNSULAR DbGbRbTjKbLa WITH DOUBLE MIDDLE TILDEzONG",
    " SgMbNbOa WITH DIAERESISjLIGHT CENTRALIZATION STROKEzjPbRa BELOWfROTUNDAjSaCHWAfTaURNED W BE",
    "LOWoUa WITH DIAERESISjLIGHT CENTRALIZATION STROKEzjVbWa BELOWhXbZtEFT ANGLE ABOVEfBELOWkRROW",
    " ABOVEfBELOWgHEAD ABOVEfBELOWpHALF RING ABOVEfBELOWnRPOON ABOVEnPARENTHESIS ABOVE LEFTkBELOW",
    " LEFTwRIGHT ARROW ABOVEfBELOWrTACK BELOWlWARDS ARROW OVERLAYnHARPOON WITH BARB DOWNWARDSzlIG",
    "ATURE LEFT HALFa BELOWpRIGHT HALFa BELOWwHT CENTRALIZATION STROKE BELOWzhONG DOUBLE SOLIDUS ",
    "OVERLAYwSOLIDUS OVERLAYoTROKE OVERLAYoVERTICAL LINE OVERLAYyW LINEiMACRONa BELOWfLEFT HALFa ",
    "BELOWpRIGHT HALFa BELOWr-ACUTEfBREVEfGRAVElINUS SIGN BELOWqNOT TILDE ABOVEoUMBER SIGN ABOVEr",
    "OGONEKa ABOVElLD PERMIC LETTER ANcDOIdNENOEfSIIdZATAvPEN MARK BELOWoVERLINEiPALATALIZED HOOK",
    " BELOWuRENTHESES ABOVEfBELOWfOVERLAYsLUS SIGN ABOVEfBELOWpRETROFLEX HOOK BELOWsVERSE SOLIDUS",
    " OVERLAYqD COMMA ABOVEtIGHT ARROW ABOVEfBELOWgHEAD ABOVEeND DOWN ARROWHEAD BELOWuUP ARROWHEA",
    "D BELOWwBELOWpHALF RING ABOVEfBELOWnRPOON ABOVEnPARENTHESIS ABOVE RIGHTlBELOW RIGHTxTACK BEL",
    "OWlWARDS HARPOON WITH BARB DOWNWARDSzlNG ABOVEfBELOWfOVERLAYmSEAGULL BELOWmHORT SOLIDUS OVER",
    "LAYoTROKE OVERLAYoVERTICAL LINE OVERLAYzbNAKE BELOWkQUARE BELOWeRACKETS ABOVEuTRONG CENTRALI",
    "ZATION STROKE BELOWziUSPENSION MARKpTHREE DOTS ABOVEpILDEa BELOWfLEFT HALF BELOWpOVERLAYhRIG",
    "HT HALF BELOWvRIPLE ACUTE ACCENTmDOTdUNDERDOToURNED COMMA ABOVEsUP TACK ABOVEfBELOWlWARDS AR",
    "ROW BELOWsR ABOVEhS ABOVEiVERTICAL LINE ABOVEfBELOWkTILDEoWIDE BRIDGE ABOVEmINVERTED BRIDGE ",
    "BELOWyGGLY LINE BELOWrX ABOVEfBELOWg-X BELOWjZIGZAG ABOVEfBELOWtETcMAbERCIAL ATcMINUS SIGNsP",
    "ASSdLEMENTgOSITION SYMBOLoRESSIONjNFETTI BALLjOUNDED FACElUSED FACEkGRUENT WITH DOT ABOVEvIC",
    "AL TAPERkJUNCTIONiSTRUCTION SIGNeWORKERqTAINS AS MEMBERgNORMAL SUBGROUPa OR EQUAL TOzfWITH L",
    "ONG HORIZONTAL STROKEwOVERBARhVERTICAL BAR AT END OF HORIZONTAL STROKEzzINUOUS UNDERLINE SYM",
    "BOLxOUR INTEGRALmROL KNOBSfSEQUENCE INTRODUCERyVENIENCE STOREpOKED RICEhIEbNGfPTIC CAPITAL L",
    "ETTER AKHMIMIC KHEImLFAeBOHAIRIC KHEInCROSSED SHEIkYPTOGRAMMIC EIEdGANGIAgNIcSHEIsDALDAeEIcI",
    "ALECT-P ALEFeHORIeKAPAeNImEIEdFEIcIcGAMMAdNGIAgHATEdORIeIAUDAfKAPAdHEIcIcSIdL-SHAPED HAkAULA",
    "fMIcNIcOaLD COPTIC AINdDJAdESHdGANGIAgHAaTcEIcORIeOOUdSHEIcIMAmNUBIAN NGIcYIdSHIMAfWAUnOUdPI",
    "bSIdROcSAMPIeHEIcIMAeIMAdOUdTAUcHETHEgUAcVIDAeZATAsOMBINING NI ABOVEiSPIRITUS ASPERfLENISyEP",
    "ACT DIGIT EIGHTfFIVEdOUReNINEeONEdSEVENeIXdTHREEeWOjNUMBER EIGHT HUNDREDiYgFIFTYdVE HUNDREDl",
    "ORTYdUR HUNDREDmNINE HUNDREDiTYgONE HUNDREDlSEVEN HUNDREDiTYgIX HUNDREDiTYfTENcHIRTYeREE HUN",
    "DREDmWENTYeO HUNDREDsTHOUSANDS MARKuFRACTION ONE HALFqULL STOPjMORPHOLOGICAL DIVIDERvOLD NUB",
    "IAN DIRECT QUESTION MARKuFULL STOPjINDIRECT QUESTION MARKwVERSE DIVIDERySMALL LETTER AKHMIMI",
    "C KHEImLFAeBOHAIRIC KHEInCROSSED SHEIkYPTOGRAMMIC EIEdGANGIAgNIcSHEIsDALDAeEIcIALECT-P ALEFe",
    "HORIeKAPAeNImEIEdFEIcIcGAMMAdNGIAgHATEdORIeIAUDAfKAPAdHEIcIcSIdL-SHAPED HAkAULAfMIcNIcOaLD C",
    "OPTIC AINdDJAdESHdGANGIAgHAaTcEIcORIeOOUdSHEIcIMAmNUBIAN NGIcYIdSHIMAfWAUnOUdPIbSIdROcSAMPIe",
    "HEIcIMAeIMAdOUdTAUcHETHEgUAcVIDAeZATAqYMBOL KAIcHI ROgMI ROfPI ROfSHIMA SIMAjTAUROShTAU ROrY",
    "LEFT SYMBOLlRIGHT SIGNmRALcNISH VERSE DIVIDERsRESPONDS TOmUCH AND LAMPlNTERBOREeSINKgING ROD",
    " TENS DIGIT EIGHTfFIVEdOUReNINEeONEdSEVENeIXdTHREEeWOoUNIT DIGIT EIGHTfFIVEdOUReNINEeONEdSEV",
    "ENeIXdTHREEeWOyPLE WITH HEARTpWa FACEhRaABcEDIT CARDiSCENT MOONlICKETa BAT AND BALLsOCODILEg",
    "ISSANTgSS MARKeOF JERUSALEMjLORRAINElPATTY WITH LEFT CROSSBARnRIGHT CROSSBARyOMMEEa WITH HAL",
    "F-CIRCLE BELOWzfED FLAGSfNEGATIVE SQUARED LATIN CAPITAL LETTER PzoSWORDSjING LANESlWNdUTCHdZ",
    "EIRO SIGNlYING CAT FACEiFACEiSTAL BALLlSIcUBE ROOThCUMBERgNEIFORM NUMERIC SIGN EIGHT ASHdDIS",
    "HeGESH2fSHAR2fUa VARIANT FORMoVARIANT FORM USSUa3xLAMITE FIFTYeORTYfONE THIRDjTWO THIRDSsFIV",
    "E ASHa TENUiBAN2a VARIANT FORMqURUeDISHeGESH2bUfSHAR2bUeIXTHS DISHlUa VARIANT FORMsOUR ASHa ",
    "TENUiBAN2a VARIANT FORMqURUeDISHeGESH2bUfSHAR2bUfUa VARIANT FORMoVARIANT FORM LIMMUa AbBc4yN",
    "IGIDAESHdMINhNE ASHdDISHeGESH2fSHAR2fUa VARIANT FORMoVARIANT FORM ILIMMUa Ac3b4zOLD ASSYRIAN",
    " ONE QUARTERhSIXTHvNE BAN2dURUeEIGHTH ASHjSHE3fGESH2bUfHALF GURiQUARTER ASHdGURlSHARUfTHIRD ",
    "DISHeVARIANT FORM AySEVEN ASHdDISHeGESH2fSHAR2fUa VARIANT FORMoVARIANT FORM IMIN AbBc3xHAR2 ",
    "TIMES GAL PLUS DISHeMINxIX ASHa TENUiDISHeGESH2fSHAR2fUa VARIANT FORMoVARIANT FORM ASH9vTHRE",
    "E ASHa TENUiBAN2dURUa VARIANT FORMrDISHeGESH2bUfSHAR2a VARIANT FORMoUa VARIANT FORMsVARIANT ",
    "FORM ESH16c21xWO ASHa TENUiBAN2dURUeESHE3fGESH2bUfSHAR2bUfTHIRDS DISHeVARIANT FORM AznPUNCTU",
    "ATION SIGN DIAGONAL COLONfQUADCOLONjTRICOLONrOLD ASSYRIAN WORD DIVIDERzVERTICAL COLONzgSIGN ",
    "Aa TIMES AbBADdGAN2 TENUjHAcIGIdLAGAR GUNUkMUSHeSAGk2bBa GUNUeTIMES ASH2eDUN3 GUNUjGALbN2 TE",
    "NUjHAcIGI GUNUhMINeLAGABfNUNa TENUiSHESHdU2eU PLUS U PLUS Uw2a TIMES AbBALAGfGAN2 TENUjME PL",
    "US ENkSHA3eTAK4nDa TIMES ESH2mKa TIMES ERIN2fSHITA PLUS GISHxLa TIMES ALcDIM2eGISHeHAcKAD3dI",
    "cSHEdUSHkANcEPHeMARa TIMES KUGdSHEnNa OVER ANhPLUS NAGA OPPOSING AN PLUS NAGAvSQUAREDrTHREE ",
    "TIMESmSHEePINdRADa TIMES KURmKABeSAL2dHa KABA TENUjOVER ASH OVER ASHa CROSSING ASH OVER ASH ",
    "OVER ASHzoTUG2 OVER TUG2 TUG2 OVER TUG2 PAPzrZIDA TENUk2bGABgBAaDa TIMES DISH TENUrG3cHAR2a ",
    "TIMES AB2dNIcZAnLa OVER BALjAGdRaA2eIa TIMES AbGARdIGI GUNUqUa CROSSING BUlOVER BU ABcTIMES ",
    "NA2jUNlLUGa OVER BULUGoRa2eDAa TIMES TAK4lGa KISIM5 TIMES A PLUS MASHkMAReBALAGeIcGAa PLUS M",
    "ASHlIaR2dUDdHAcIRa PLUS LUkKAKdLAbUa PLUS MASH2lMdNEcPAP PLUS PAPmSIcTAK4eU2 PLUS GIR2eMASHl",
    "SHqTIMES KURk3cMbRaA3b4eIaBbMa TIMES IGIdSHEdU U Um2a TIMES UDlNa KASKAL U GUNU DISHuSHa PLU",
    "S SHUmUa GUNUeOVER DUhSHESHIGiBa TIMES ESH2eSHEk2cGa TIMES ANSHEeSHa AT LEFTlDINcUNdERIN2fGA",
    "bIaR2 GUNUhSHeHAbIcIGI GUNUiKASKALfURbSHU2a PLUS KASKALsLAK-020fMa TIMES KURmUH PLUS GISHnMA",
    "SHdEScIcNIcPIcSHEcI GUNUoUDdHbNa3a GUNUa GUNUl4cR2eEa OVER E NUN OVER NUNtTIMES PAPk2a TIMES",
    " A PLUS HA PLUS DArGARdKURdMIcPAPdSALcHEdUjDINdGIRdLbNa CROSSING ENlOPPOSING ENlSQUAREDhTIME",
    "S GAN2a TENUjMEkRENcIN2a XgSH2a CROSSING ESH2rZENa SHESHIG TIMES ASHdHIcIGI GUNUiLAaLdMEaSdS",
    "UqTIMES Aa PLUS LALa TIMES LALtNcBADdDUN3 GUNUa GUNUoGUDdHAa GUNUhIGI GUNUiKASKALa SQUAREDnU",
    "3dLAaL TIMES LALmIbUcSHEcUcU2bDnGAa GUNUf2a OVER GA2iTIMES A PLUS DA PLUS HAkHAcIGIjB2 TENU ",
    "PLUS TABqNa PLUS KAK PLUS ArSHa2a PLUS GALnBADbHAR2eR PLUS RAkURa PLUS RAlDAbIaM GUNUeTIMES ",
    "SHEmUBbG TIMES IGI GUNUiKASKALqELa PLUS LAjNa TIMES GAN2 TENUrRENeGAaN2 TENUhRa PLUS DIcNEkI",
    "a4a PLUS AiR2 PLUS SUmHA PLUS AbLU PLUS ESH2sLa PLUS LAkI PLUS LIjUB2eIGI GUNUhSH PLUS HU PL",
    "US ASHuKAKbSKALfIDa PLUS LALlU3 PLUS ANjSHU2 PLUS KASKALsLAaMa TIMES KURmUHdME PLUS ENjIbUSH",
    "eNEa PLUS E2cGIjUNa OVER NUNmPAcSALbRcHEa PLUS TURkIDbMdUMdTAK4eUaDa PLUS DUkZIZ2mBAa CROSSI",
    "NG GABAnROTATED NINETY DEGREESzDa OVER GAD GAR OVER GARxLa GAD OVER GAD GAR OVER GARzbAMdMbN",
    "a2a CROSSING GAN2nOVER GAN2jTENUhRa3cSHANfE22cSHTINa TIMES KURdUoIa CROSSING GIlTIMES EbUi4a",
    " CROSSING GI4mOVER GI4kDIMdGbR2a GUNUg3a TIMES A PLUS IGIkGAN2 TENUjIGIdLU PLUS IGIlPAlSALcH",
    "a CROSSING GISHnTENUdIMES BADdGISH CROSSING GISHsTAK4oUa CROSSING GUm2a GUNUeTIMES IGI GUNUi",
    "KAKa TIMES IGI GUNUsNUNdSAL PLUS TUG2vDa OVER GUD LUGALoPLUS GISH TIMES TAK4uTIMES A PLUS KU",
    "RkKURlLbMa TIMES SHElRa7bUNbSHgHAa GUNUeTENUa GUNUkLcIa TIMES ASHa OVER HI TIMES ASHs2eBADdD",
    "ISHeGADdKINdNUNdSHEdUjUaB2a TIMES ANcHALdKASKALgLISHeUDlL2cSHeIa AcBbDIMa OVER IDIM BURdSQUA",
    "REDvGaIa DIBdGUNUeOVER IGI SHIR OVER SHIR UD OVER UDzjRIfLa TIMES GAN2 TENUq2cMa CROSSING IM",
    "lOPPOSING IMlSQUAREDhTIMES TAK4lINdNbRbSHdKAa TIMES AaDa PLUS KU3kNSHEeSH2b3eBADbLAGdRcIbUcE",
    "RIN2eSH2eGAaLbN2 TENUhRa PLUS SHA3 PLUS AtIaR2cSHa CROSSING GISHnPLUS SARmUaDbR7eHI TIMES AS",
    "H2nIGIcMcKAaKcIaDdLIbUaMdMEa PLUS DUcGIcTEjIa PLUS NUNUZnNEbUNdPAbIcRUcSAaRcHAbEbIDcUaLdIGcU",
    "HURfTARcUcUa U Ue2bDbMUM TIMES PAmRa2cSHdZIj2a CROSSING KA2oBbD2b3b4b5a OVER KAD5mKa TIMES I",
    "GI GUNUqLa CROSSING KALmTIMES BADlM2b4cP ELAMITEjSKALa LAGAB TIMES U OVER LAGAB TIMES UzhOVE",
    "R KASKAL LAGAB TIMES U OVER LAGAB TIMES UzzESH2eIa TIMES BADdUaDjDbNbSALcHbIM5a OVER KISIM5r",
    "Ua OVER HI TIMES ASH2 KU OVER HI TIMES ASH2zq3b4a VARIANT FORMo7bLa GUNUgNbRa OPPOSING KURoS",
    "HU2fWU318gLAaGABa SQUAREDhTIMES Aa PLUS DA PLUS HAkGARdLALjLbNbSH ZIDA TENUnBADcIcDARdENcGAa",
    "RcIbUDa PLUS GUDmHAaLcI TIMES NUNmIGI GUNUhMa PLUS HAcLUkKIaNcU3bLa PLUS HI PLUS AsLAGABeISH",
    "dUaLdMEa PLUS ENjUSHeNEcSHE PLUS SUMkITA PLUS GISH PLUS ERIN2kTENUsU2a PLUS SHU2nUMdTAGbK4dE",
    " PLUS A PLUS SU PLUS NAzUa PLUS AbU PLUS Uo2 PLUS ASHkDbSHdZU OVER ZUsRa GUNUa OVER LAGAR GU",
    "NU SHEyTIMES SHEa PLUS SUMwHSHUeK-003c21b5c30c50b1c62c79 OVER LAK-079 GUNUu80b1 OVER LAK-081",
    "p92d130c42d210b9c20b5b8c38c65b6d343b7b8c83b4c90d441b9a TIMES GUcIGIdPAP PLUS LU3dPAP PLUS LU",
    "3vU2 PLUS BAt50b7c70c83c90b2b3b5d550d608c17a TIMES ASHdBADdDUN3 GUNU GUNUoKU3dLAcTARcEcU2bDb",
    "RUDAo36c48a TIMES DUBdGAcIGIa GUNUiNIcPAP PLUS PAP PLUS LU3vSHESH PLUS KInUDbRUDAp724c49fLa ",
    "TIMES LALlMa TIMES KURa PLUS RUuIaLbMMU2eSHdUa TIMES BADk2a CROSSING LU2mGUNU TIMES ASHoOPPO",
    "SING LU2mSHESHIGa TIMES BADqQUAREDhTENUdIMES ALcBADdDISHeESH2a PLUS LALiTENUjGAN2 TENUjHALcI",
    " TIMES BADmIMcKAD2b3a PLUS ASHmIcLA PLUS ASHjGABfME PLUS ENkNEbUcPAPa PLUS PAP PLUS LU3vSHUc",
    "I PLUS ASHjK2 PLUS BUmTAK4dUG2m3bGALa OPPOSING LUGALnVER LUGALkSHESHIGlHbLbMa OVER LUMa GAR ",
    "OVER GARzMAa GUNUeTIMES TAK4l2bHbRbSHa2eEaSaHdIa PLUS ZA7jNcUa OVER MUiGa GUNUgNSUBeRGU2eSHa",
    " CROSSING MUSHnOVER MUSHa TIMES A PLUS NAjGAcKAKtTIMES AbKURdZAj3a GUNUeTIMES Aa PLUS DIjDIc",
    "ZAoNAa2b4bGAa INVERTEDiOPPOSING NAGAnTIMES SHU TENUpRdMa NUTILLUi2dEa SHESHIGhTIMES AbUDkIa ",
    "TIMES Ei2bMa TIMES GAN2 TENUhR PLUS GAN2 TENUzbNa9bDA2a TIMES ANbSHa PLUS ASHmBALdDIM GUNUiG",
    "IaSHdUDbLdHIcKESH2fLAK-050hMASHdE PLUS GAN2 TENUrNEbUNdPAP PLUS PAPmSHEa PLUS A ANdSHa PLUS ",
    "ASHvUa PLUS Uh2 PLUS ASHkRUDAeSHoSAGeUa11a OVER NU11 BUR OVER BURwROTATED NINETY DEGREESwTEN",
    "UhNa CROSSING NUNa LAGAR OVER LAGARzeLAGAR TIMES GARdMASHeSALa OVER NUN LAGAR TIMES SALzdUSH",
    "pOVER NUNiTENUfUZa AB2 TIMES ASHGABgBIcDUGdGUDdIGI GUNUiKAD3eLAcNEcSILA3fU2mKISIM5 TIMES BIa",
    " UxPAaDbNbPcESH2a ASTERISKnIa CROSSING PIlTIMES AaBcBIbUcEbIaBcUa2jR2bIGa OPPOSING PIRIGoTIM",
    "ES KALdUDcZAoRAaBcIbUcSAaGa GUNUa TIMES HAnNUTILLUhOVER SAGiTIMES AbDUaBdENcHAcIGI GUNUiKAKc",
    "URdLUMdMIcNUNdSALcHE AT LEFTjIDeTABbK4eU2bBbMbRbSHlLa LAGAB TIMES ASH2sNGA2eRcHAa3a TIMES Ab",
    "BADdGISHeNEcSHU2eTURdUa PLUS Aq6a TENUgB6cR2dEa HUcOVER SHEa GAD OVER GAD GAR OVER GARzTAB O",
    "VER TAB GAR OVER GARzjPLUS HUB2eNAM2eSARjG9cNbSHa2bLAMgIDa TIMES AbIMkMa TIMES AbBALcULUGfDI",
    "NdGARdIGIa GUNUiKUSHU2gLULdMUGdSALlNIGdRa OVER SHIR BUR OVER BURwTENUgTAdUa OVER INVERTED SH",
    "Us2a PLUS DUG TIMES NImE2 TIMES ANsBURfIa GUNUeTIMES TAK4lGa4a OVER SIG4 SHU2rK2cLA3eUa OVER",
    " SUiDa2cHURdMaASHeRa9eTAa ASTERISKiGUNUeTIMES HIcMIjBa OVER TAB NI OVER NI DISH OVER DISHzjS",
    "QUAREDjGa TIMES BIcGUDdSHEbUdTUG2eUDkK4a PLUS SAGlRcEa GUNUgIa TENUf2bLbRa OVER TIRa GAD OVE",
    "R GAD GAR OVER GARzjTIMES TAK4nUaG2cKbMa TIMES GAN2 TENUjTHREE DISHsRa OVER TUR ZA OVER ZAxU",
    "a GUDdOVER U PA OVER PA GAR OVER GARxSUR OVER SURmU REVERSED OVER U REVERSEDziUa Ue2bBbDa GU",
    "NUeKUSHU2gSHESHIGa TIMES BADrTIMES BADdMIcU PLUS U PLUS Ua GUNUzcUGdMa TIMES LAGABfMEa PLUS ",
    "DAkSHA3eUiBINdUMa TIMES KASKALgPAmNa GUNUgRa CROSSING URlSHESHIGi2a INVERTEDiTIMES A PLUS HA",
    "cNAiLcHAcNUNdU2a PLUS ASHdBIjDk4bIa3cUa TIMES AaSHGABgBARdDARA3eUNdGAaLbN2 TENUhRcUcHAcIGIcM",
    "bSHdKIcLAK-668gU3bMdMINdPAcSHEcIG4eTUcU PLUS GUDjDbRUDAmDAa TIMES UmSHa TIMES AbKUaRdTAK4l2b",
    "UMXdXdTUKIeZ3a TIMES KASKALoUdZAa SQUARED TIMES KURrTENUf7bGbMXdE2cIa OVER ZIi3bBa KABA TENU",
    "lGbZ2dUa OVER ZU PLUS SARr5a TIMES AbTHREE DISH TENUxBURdMqP ON BLACK SQUAREpWITH STRAWlCAKE",
    "eIDOeRLING STONEjY BRACKET EXTENSIONrLOGICAL ANDdORiOPhRENCY EXCHANGEiSIGNjY AND RICElVED ST",
    "EM PARAGRAPH SIGN ORNAMENTziSTARDdOMSfT OF MEATkYCLONEfLINDRICITYkPRIOT SYLLABLE AbEbIbJAbOc",
    "KAbEbIbObUcLAbEbIbObUcMAbEbIbObUcNAbEbIbObUcObPAbEbIbObUcRAbEbIbObUcSAbEbIbObUcTAbEbIbObUcUb",
    "WAbEbIbOcXAbEcZAbOpO-MINOAN SIGN CM001b2b4b5b6b7b8b9c10b1b2aBc3b5b7b9c21b3b4b5b6b7b8b9c30b3b",
    "4b5b6b7b8b9c40b1b4b6b7b9c50b1b2b3b4b5b6b8b9c60b1b2b3b4b6b7b8b9c70b1b2b3b4b5aBc6b8b9c80b1b2b3",
    "b4b5b6b7b8b9c90b1b2b4b5b6b7b8b9d100b1b2b3b4b5b7b8b9c10b2b4d301b2vRILLIC CAPITAL LETTER Aa WI",
    "TH BREVEfDIAERESISpBKHASIAN CHEa WITH DESCENDERsDZEdHAlLEUT KAiBARRED Oa WITH DIAERESISvSHKI",
    "R KAjEbIG YUSfNOCULAR OkLENDED YUSkROAD OMEGAkYELORUSSIAN-UKRAINIAN IyCCHEdHEa WITH DESCENDE",
    "RiIAERESISjVERTICAL STROKExLOSED LITTLE YUSqROSSED OjDCHEdEbJEaRVeOUBLE MONOCULAR OlOhWEcZEa",
    "LOdHEcWEcZEbHEfEa WITH DIAERESISpFbLa WITH DESCENDERjHOOKeMIDDLE HOOKlTAILlMa WITH TAILlNa W",
    "ITH DESCENDERjHOOKeLEFT HOOKjMIDDLE HOOKlTAILlRa WITH TICKlSa WITH DESCENDERrFITAeGHEa WITH ",
    "DESCENDERjMIDDLE HOOKlSTROKEa AND HOOKpUPTURNoJEdHAa WITH DESCENDERjHOOKeSTROKEmRD SIGNiWEdI",
    "a WITH DIAERESISjGRAVEfMACRONmEa WITH BREVEfGRAVEmOaTAbIFIED AbBIG YUShCLOSED LITTLE YUSrEbL",
    "ITTLE YUSkYATlZHITSAa WITH DOUBLE GRAVE ACCENTzhJEcKAa WITH DESCENDERjHOOKeSTROKEgVERTICAL S",
    "TROKEwHAKASSIAN CHEnJEcOMI DEbJEcZJEeLJEdNJEdSJEdTJEdZJEgPPAeSIdLHAcITTLE YUSjJEdMONOCULAR O",
    "hGRAPH UKmNEUTRAL YERkJEdOa WITH DIAERESISpMEGAa WITH TITLOpTcPEa WITH DESCENDERjMIDDLE HOOK",
    "sSIdQAcREVERSED DZEdTSEdYUcZEkHAcOUND OMEGAlSCHWAa WITH DIAERESIStEMISOFT SIGNmHAbCHAdHAa WI",
    "TH DESCENDERrORT Ia WITH TAILlUfWEdOFT DEcELbMcSIGNiTRAIGHT Ua WITH STROKEwTCHEdEa WITH DESC",
    "ENDERjMIDDLE HOOKsSEbHEcSEcWEdWEdUa WITH DIAERESISiOUBLE ACUTEmMACRONmKaRAINIAN IEmVEcWEcYAa",
    "EbTcERUa WITH BACK YERiDIAERESISsIbNbUcZEa WITH DESCENDERiIAERESISpMLYAfHEa WITH BREVEfDESCE",
    "NDERiIAERESISqWEkIGATURE A IEeEN GHEgTE TSExKAVYKAgLETTER MULTIOCULAR OnPALOCHKAiSMALL CAPIT",
    "AL ELxPAYEROKhSMALL LETTER Aa WITH BREVEfDIAERESISpBKHASIAN CHEa WITH DESCENDERsDZEdHAlLEUT ",
    "KAiBARRED Oa WITH DIAERESISvSHKIR KAjEbIG YUSfNOCULAR OkLENDED YUSkROAD OMEGAkYELORUSSIAN-UK",
    "RAINIAN IyCCHEdHEa WITH DESCENDERiIAERESISjVERTICAL STROKExLOSED LITTLE YUSqROSSED OjDCHEdEb",
    "JEaRVeOUBLE MONOCULAR OlOhWEcZEaLOdHEcWEcZEbHEfEa WITH DIAERESISpFbLa WITH DESCENDERjHOOKeMI",
    "DDLE HOOKlTAILlMa WITH TAILlNa WITH DESCENDERjHOOKeLEFT HOOKjMIDDLE HOOKlTAILlRa WITH TICKlS",
    "a WITH DESCENDERrFITAeGHEa WITH DESCENDERjMIDDLE HOOKlSTROKEa AND HOOKpUPTURNoJEdHAa WITH DE",
    "SCENDERjHOOKeSTROKEmRD SIGNiWEdIa WITH DIAERESISjGRAVEfMACRONmEa WITH BREVEfGRAVEmOaTAbIFIED",
    " AbBIG YUShCLOSED LITTLE YUSrEbLITTLE YUSkYATlZHITSAa WITH DOUBLE GRAVE ACCENTzhJEcKAa WITH ",
    "DESCENDERjHOOKeSTROKEgVERTICAL STROKEwHAKASSIAN CHEnJEcOMI DEbJEcZJEeLJEdNJEdSJEdTJEdZJEgPPA",
    "eSIdLHAcITTLE YUSjJEcONG-LEGGED DEoMONOCULAR OhGRAPH UKmNARROW OhEUTRAL YERkJEdOa WITH DIAER",
    "ESISpMEGAa WITH TITLOpTcPALOCHKAhEa WITH DESCENDERjMIDDLE HOOKsSIdQAcREVERSED DZEdTSEdYUcZEk",
    "HAcOUND OMEGAgED VEkSCHWAa WITH DIAERESIStEMISOFT SIGNmHAbCHAdHAa WITH DESCENDERrORT Ia WITH",
    " TAILlUfWEdOFT DEcELbMcSIGNiTRAIGHT Ua WITH STROKEwTALL HARD SIGNjTEcYAThCHEdEa WITH DESCEND",
    "ERjMIDDLE HOOKsHREE-LEGGED TEoSEbHEcSEcWEdWEdUa WITH DIAERESISiOUBLE ACUTEmMACRONmKaRAINIAN ",
    "IElNBLENDED UKmVEcWEbIDE EShYAaEbTcERUa WITH BACK YERiDIAERESISsIbNbUcZEa WITH DESCENDERiIAE",
    "RESISpMLYAfHEa WITH BREVEfDESCENDERiIAERESISqWEkIGATURE A IEeEN GHEgTE TSEvTHOUSANDS SIGNxDA",
    "GGERa KNIFEfWITH LEFT GUARDkRIGHT GUARDvLET SYMBOLkNCERdGOdRK SHADEeUNGLASSESnSH SYMBOLgWITH",
    " LEFT UPTURNrED LOW LINEiOVERLINEiTRIANGLE-HEADED RIGHTWARDS ARROWzmTA LINK ESCAPEpC1b2b3b4b",
    "ScEAF PERSONjCIDUOUS TREEkMAL EXPONENT SYMBOLpSEPARATOR KEY SYMBOLzREASE FONT SIZE SYMBOLxER",
    "cGREE CELSIUShFAHRENHEITkSIGNjLaETEdIVERY TRUCKlTA EQUAL TOmNTISTRY SYMBOL LIGHT DOWN AND HO",
    "RIZONTALa WITH CIRCLEgTRIANGLEiWAVEzeUP AND HORIZONTALa WITH CIRCLEgTRIANGLEiWAVEzcVERTICAL ",
    "AND BOTTOM LEFTeRIGHTmTOP LEFTeRIGHTjWAVEiWITH CIRCLEgTRIANGLEzsPARTMENT STOREoRELICT HOUSE ",
    "BUILDINGvSCENDING NODEmERET CAPITAL LETTER AYcBEEdCHEEeDEEdEFbLbMbNaGcRbSaHcTHcWcGAYdHbJEEdK",
    "AYdLONG AaHcEbIbOaOhOIbWcPEEdSHORT AaHcEbIbOaOiTEEcHEEeVEEdWUcYEEdZEEcHEEtSMALL LETTER AYcBE",
    "EdCHEEeDEEdEFbLbMbNaGcRbSaHcTHcWcGAYdHbJEEdKAYdLONG AaHcEbIbOaOhOIbWcPEEdSHORT AaHcEbIbOaOiT",
    "EEcHEEeVEEdWUcYEEdZEEcHEEuTa ISLANDkKTOP COMPUTERiWINDOWmVANAGARI ABBREVIATION SIGNqCUTE ACC",
    "ENTmCARETfDANDAeIGIT EIGHTfFIVEdOUReNINEeONEdSEVENeIXdTHREEeWOdZEROjOUBLE DANDAmGAP FILLERjR",
    "AVE ACCENTmHEADSTROKEkJAIN OMhLETTER AaAbIbUbWbYcBAbBAcHAdCAaNDRA AbEbOhHAdDAbDAbDAbHAdHAdHA",
    "dEbFAcGAbGAcHAbHAdLOTTAL STOPmHAbEAVY YAiIaIcJAbHAcJAdKAbHAbHAeLAbLAbLAeMAaRWARI DDAlNAbGAcN",
    "AbNAdYAdOaEbOEdPAbHAdQAcRAbHAcRAdSAbHAbORT AbEbOgSAdTAbHAcTAbHAeUaEbUaEdVAbOCALIC LaLcRaRkYA",
    "bYAdZAbHAkOMcSIGN ANUSVARAhVAGRAHAiCANDRABINDUa AVAGRAHAiTHREEeWOdVIRAMAsDOUBLE CANDRABINDU ",
    "VIRAMAzHIGH SPACING DOTqINVERTED CANDRABINDUuNUKTAfPUSHPIKAiSIDDHAMgPACING CANDRABINDUtVIRAM",
    "AeSARGAlTRESS SIGN ANUDATTAiUDATTAsVOWEL SIGN AAbIbUbWbYcCANDRA EbLONG EgOiEbIaIcOaEbOEdPRIS",
    "HTHAMATRA EpSHORT EbOhUaEbUaEdVOCALIC LaLcRaRzeICE CONTROL FOUReONEdSTRINGgTHREEeWOrIAERESIS",
    "gMETER SIGNjOND OPERATORiSHAPE WITH A DOT INSIDExTARGETgWITH BOTTOM HALF BLACKrLEFT HALF BLA",
    "CKpRIGHT HALF BLACKqTOP HALF BLACKzE FACE-1b2b3b4b5b6hSEL LOCOMOTIVEpFFERENCE BETWEENqGIT EI",
    "GHTa COMMAfFULL STOPpFIVEa COMMAfFULL STOPnOURa COMMAfFULL STOPoNINEa COMMAfFULL STOPoONEa C",
    "OMMAfFULL STOPnSEVENa COMMAfFULL STOPoIXa COMMAfFULL STOPnTHREEa COMMAfFULL STOPoWOa COMMAfF",
    "ULL STOPnZEROa COMMAfFULL STOPrRAM FOR EARTHaLY HEAVENfUMANnGREATER YANGdINlHEAVENLY EARTHnU",
    "MAN EARTHlLESSER YANGdINtMENSION ORIGINoNGBAT CIRCLED SANS-SERIF DIGIT EIGHTfFIVEdOUReNINEeO",
    "NEdSEVENeIXdTHREEeWOdZEROkNUMBER TENzeNEGATIVE CIRCLED DIGIT EIGHTfFIVEdOUReNINEeONEdSEVENeI",
    "XdTHREEeWOjNUMBER TENkSANS-SERIF DIGIT EIGHTfFIVEdOUReNINEeONEdSEVENeIXdTHREEeWOdZEROkNUMBER",
    " TENztRECT CURRENT SYMBOL FORM TWOxHITiSABLED CARiPPOINTED BUT RELIEVED FACErFACEoCONTINUOUS",
    " UNDERLINE SYMBOLzcGUISED FACEmTTO MARKiVES AKURU DIGIT EIGHTfFIVEdOUReNINEeONEdSEVENeIXdTHR",
    "EEeWOdZEROjOUBLE DANDAmEND OF TEXT MARKqGAP FILLERkINITIAL RAkLETTER AaAcBAbHAdCAbHAdDAbDAbH",
    "AdHAdEbGAbHAdHAcIaIcJAcKAbHAdLAbLAdMAcNAbGAcNAcYAdObPAbHAdRAcSAbHAcSAdTAbHAcTAdUaUcVAcYAbYAd",
    "ZAjMEDIAL RAcYAjPREFIXED NASAL SIGNtSIGN ANUSVARAiCANDRABINDUlHALANTAhNUKTAkVIRAMAfOWEL SIGN",
    " AAbIcEbIaIcObUaUwIDESdNG MASKhSION SIGNdLASHfTIMESlORCE SYMBOLmYA LAMPhZZY FACEeSYMBOLlLEcN",
    "A DOUBLE HELIXpO NOT LITTER SYMBOLsCUMENTa WITH PICTUREhTEXTa AND PICTUREzdDOcES NOT CONTAIN",
    " AS MEMBERgNORMAL SUBGROUPa OR EQUALzkDIVIDEa WITH REVERSED NEGATION SLASHzkFORCEfPRECEDEa O",
    "R EQUALoOVEfSUCCEEDa OR EQUALxGa FACEfRA ABBREVIATION SIGNrLETTER AaAbIbUcBAbHAdCAbHAdDAbDAb",
    "HAdHAdEbGAbHAdHAcIaIcJAbHAdKAbHAdLAcMAcNAbGAcNAcYAdObPAbHAdRAbRAdSAbHAcSAdTAbHAcTAbHAeUaUcVA",
    "cYAjSIGN ANUSVARAiNUKTAfVIRAMAeSARGAmVOWEL SIGN AAbIbUcEbIaIcObUaUcVOCALIC RaRzLLAR SIGNiPHI",
    "NfMINO TILE HORIZONTAL BACKf-00-00b1b2b3b4b5b6e1-00b1b2b3b4b5b6e2-00b1b2b3b4b5b6e3-00b1b2b3b",
    "4b5b6e4-00b1b2b3b4b5b6e5-00b1b2b3b4b5b6e6-00b1b2b3b4b5b6qVERTICAL BACKf-00-00b1b2b3b4b5b6e1-",
    "00b1b2b3b4b5b6e2-00b1b2b3b4b5b6e3-00b1b2b3b4b5b6e4-00b1b2b3b4b5b6e5-00b1b2b3b4b5b6e6-00b1b2b",
    "3b4b5b6yNG SIGNhORcT ABOVEfMINUSfOPERATORiPLUSfTED CIRCLEfROSSfFENCEfLINE FACEjOBELOSgRIGHT-",
    "POINTING ANGLEuSOLIDUSgQUAREgTRANSPOSITION MARKERzUBLE ACUTE ACCENTmCIRCLED DIGIT EIGHTfFIVE",
    "dOUReNINEeONEdSEVENeIXdTHREEeWOjNUMBER TENrOLON EQUALkURLY LOOPkDAGGERfOWN TACKjEXCLAMATION ",
    "MARKqHIGH-REVERSED-9 QUOTATION MARKzeYPHENgINTEGRALeRSECTIONmLEFT ARC GREATER-THAN BRACKETzd",
    "OGICAL ANDdORiW LINEf-9 QUOTATION MARKqREVERSED-9 QUOTATION MARKzeNESTED GREATER-THANmLESS-T",
    "HANa WITH UNDERBARzfOBLIQUE HYPHENoPLUSdRECEDESgIMEa QUOTATION MARKuQUESTION MARKnRIGHT ARC ",
    "LESS-THAN BRACKETzcSOLIDUS OPERATORpQUARE INTERSECTIONmUNIONlTACKED COMMAlROKE NOT SIGNoUBSE",
    "TeCCEEDSgPERSETgSPENSION MARKpUNIONeP TACKhVERTICAL BARa DOUBLE LEFT TURNSTILEoRIGHT TURNSTI",
    "LEwLEFT TURNSTILEsLINEnWAVY OVERLINEo-ENDED MULTIMAPoLINE EQUAL TO OR GREATER-THANmLESS-THAN",
    "vSLANTED EQUAL TO OR GREATER-THANmLESS-THANvGREATER-THAN OR EQUAL TOyLESS-THAN OR EQUAL TOzj",
    "STRUCK CAPITAL CbGAMMAfHbNbPaIcQbRbZjITALIC CAPITAL DjSMALL DbEbIbJoN-ARY SUMMATIONpSMALL GA",
    "MMAfPIqD FEMALE SIGNlMALE SIGNjSYMBOLlGHNUTgVE OF PEACElWN ARROWHEADjFISH TAILjRIGHT DIAGONA",
    "L ELLIPSISxTACKa WITH CIRCLE BELOWx-POINTING RED TRIANGLEmSMALL RED TRIANGLEsTRIANGLE WITH L",
    "EFT HALF BLACKpRIGHT HALF BLACKzpWARD FACING HOOKa WITH DOTnNOTCHED HOOKa WITH DOTzeS ANCORA",
    "fRROWa AND RIGHT ONE EIGHTH BLOCKzbFROM BARiLEFTWARDS OF UPWARDS ARROWzbTO BARgWITH CORNER L",
    "EFTWARDSqDOUBLE STROKEnEQUILATERAL ARROWHEADvHORIZONTAL STROKErLARGE TRIANGLE ARROWHEADyMEDI",
    "UM TRIANGLE ARROWHEADzNOTCHED TAILmSMALL EQUILATERAL ARROWHEADvTRIANGLE ARROWHEADyTIP LEFTWA",
    "RDSjRIGHTWARDSzBLACK ARROWfCIRCLED WHITE ARROWzCOMPRESSED ARROWqDASHED ARROWlOUBLE ARROWmFIN",
    "GER-POST ARROWrHARPOON WITH BARB LEFT BESIDE DOWNWARDS HARPOON WITH BARB RIGHTziUPWARDS HARP",
    "OON WITH BARB RIGHTznFROM BARiTO BARhWARDSjRIGHT FROM BARiTO BARhWARDSzcEAVY ARROWfCOMPRESSE",
    "D ARROWwPAIRED ARROWSnQUADRUPLE ARROWpROCKETgSANS-SERIF ARROWpQUARED ARROWnTRIANGLE ARROWHEA",
    "Dk-HEADED ARROWa LEFTWARDS OF UPWARDS TRIANGLE-HEADED ARROWzrTO BARgWITH BOLD SHAFTkDOUBLE H",
    "ORIZONTAL STROKEyHEAVY SHAFTlLONG TIP LEFTWARDSjRIGHTWARDStMEDIUM SHAFTmNARROW SHAFTmVERY HE",
    "AVY SHAFTzcDASHED ARROWmPAIRED ARROWSnZIGZAG ARROWzPLE ARROWlWO HEADED ARROWn-HEADED ARROW W",
    "ITH TRIANGLE ARROWHEADSzqWHITE ARROWa WITHIN TRIANGLE ARROWHEADzmZIGZAG ARROWvRACHMA SIGNjFT",
    "ING POINT RIGHTWARDS ARROWzdGONa FACEjESSdIVE SLOW SIGNnOMEDARY CAMELmOLING FACEkP OF BLOODj",
    "LETfUM WITH DRUMSTICKStUCKcMPLINGgPLOYAN AFFIX ATTACHED E HOOKgI HOOKgLEFT-TO-RIGHT SECANTuS",
    "ECANTgTAILcNGENTa HOOKvHIGH ACUTEfCIRCLEgDOTdGRAVEfLINEdONG GRAVEkTIGHT ACUTElVERTICALa SECA",
    "NTpWAVEjLEFT HORIZONTAL SECANTvOW ACUTEeRROWfCIRCLEgDOTdGRAVEfLINEdONG GRAVEkTIGHT ACUTElVER",
    "TICALa SECANTpWAVEiMID HORIZONTAL SECANTrVERTICAL SECANTtRIGHT HORIZONTAL SECANTzeDOUBLE MAR",
    "KlLETTER AaOUdBbDa ScHcEaEbUcFa NdGa R SfHaLcIaEcJa Ma SdNa SdSa WITH DOTkWITH DOTaS INSIDE ",
    "AND ABOVEzdKa MbR SeKcLaHbONG IbUgMa Na SdSbWITH DOTkNa Ma SdSbWITH DOTjASAL AbIbObUhOaAbOHc",
    "UbWcPa NcERNIN AMbNjRa ScHbOMANIAN IbUkSa Ja SdKa RdMbNbPa RdSbTa RdWITH DOTa BELOWpHORT IgL",
    "OAN ANcDHcEEbHbNcJbONbWcUhTa R SdScHcUa NcHbIcVaOCALIC MjWa RcAbEIcHbIbOaWdXaWcYEjPUNCTUATIO",
    "N CHINOOK FULL STOPzeSIGN O WITH CROSSrTHICK LETTER SELECTORzeVDdE-MAIL SYMBOLmAGLEdRa OF MA",
    "IZEfRICEhWITH HEARING AIDrTHa GLOBE AMERICAShSIA-AUSTRALIAoEUROPE-AFRICAsROUNDkST SYRIAC CRO",
    "SSqDITORIAL CORONISqGGbYPTIAN HIEROGLYPH A001b2b3b4b5aAc6aAbBc7b8b9c10b1b2b3b4aAc5b6b7aAc8b9",
    "c20b1b2b3b4b5b6b7b8b9c30b1b2aAc3b4b5b6b7b8b9c40aAc1b2aAc3aAc4b5aAc6b7b8b9c50b1b2b3b4b5b6b7b8",
    "b9c60b1b2b3b4b5b6b7b8b9c70dA001b2b3b4b5b6b7aAbBc8b9c10b1b2b3b4b5b6b7b8b9c20b1b2b3b4b5b6b7b8b",
    "9c30b1b2fB001b2b3b4b5aAc6b7b8b9dEGIN SEGMENTnC001b2aAbBbCc3b4b5b6b7b8b9c10aAc1b2b3b4b5b6b7b8",
    "b9c20b1b2b3b4eD001b2b3b4b5b6b7b8aAc9c10b1b2b3b4b5b6b7b8b9c20b1b2b3b4b5b6b7aAc8b9c30b1aAc2b3b",
    "4aAc5b6b7b8b9c40b1b2b3b4b5b6aAc7b8aAc9c50aAbBbCbDbEbFbGbHbIc1b2aAc3b4aAc5b6b7b8b9c60b1b2b3b4",
    "b5b6b7aAbBbCbDbEbFbGbHfE001b2b3b4b5b6b7b8aAc9aAd10b1b2b3b4b5b6aAc7aAc8b9c20aAc1b2b3b4b5b6b7b",
    "8aAc9c30b1b2b3b4aAc6b7b8dND SEGMENTlF001aAc2b3b4b5b6b7b8b9c10b1b2b3aAc4b5b6b7b8b9c20b1aAc2b3",
    "b4b5b6b7b8b9c30b1aAc2b3b4b5b6b7aAc8aAc9c40b1b2b3b4b5aAc6aAc7aAc8b9c50b1aAbBbCc2b3eG001b2b3b4",
    "b5b6aAc7aAbBc8b9c10b1aAc2b3b4b5b6b7b8b9c20aAc1b2b3b4b5b6aAc7b8b9c30b1b2b3b4b5b6aAc7aAc8b9c40",
    "b1b2b3aAc4b5aAc6b7b8b9c50b1b2b3b4eH001b2b3b4b5b6aAc7b8dORIZONTAL JOINERrI001b2b3b4b5aAc6b7b8",
    "b9aAd10aAc1aAc2b3b4b5dNSERT AT BOTTOM ENDdSTARTmTOP ENDdSTARTtK001b2b3b4b5b6b7b8eL001b2aAc3b",
    "4b5b6aAc7b8eM001aAbBc2b3aAc4b5b6b7b8b9c10aAc1b2aAbBbCbDbEbFbGbHc3b4b5aAc6aAc7aAc8b9c20b1b2aA",
    "c3b4aAc5b6b7b8aAc9c30b1aAc2b3aAbBc4b5b6b7b8b9c40aAc1b2b3b4eN001b2b3b4b5b6b7b8b9c10b1b2b3b4b5",
    "b6b7b8aAbBc9c20b1b2b3b4b5aAc6b7b8b9c30b1b2b3aAc4aAc5aAc6b7aAc8b9c40b1b2dL001b2b3b4b5aAc6b7b8",
    "b9c10b1b2b3b4b5b6b7aAc8b9c20eU001b2b3b4b5b6b7b8b9c10aAc1aAc2b3b4b5b6b7b8aAc9c20b1b2aAgO001aA",
    "c2b3b4b5aAc6aAbBbCbDbEbFc7b8b9c10aAbBbCc1b2b3b4b5b6b7b8b9aAd20aAc1b2b3b4aAc5aAc6b7b8b9aAd30a",
    "Ac1b2b3aAc4b5b6aAbBbCbDc7b8b9c40b1b2b3b4b5b6b7b8b9c50aAbBc1dVERLAY MIDDLEoP001aAc2b3aAc4b5b6",
    "b7b8b9c10b1eQ001b2b3b4b5b6b7eR001b2aAc3aAbBc4b5b6b7b8b9c10aAc1b2b3b4b5b6aAc7b8b9c20b1b2b3b4b",
    "5b6b7b8b9eS001b2aAc3b4b5b6aAc7b8b9c10b1b2b3b4aAbBc5b6b7aAc8b9c20b1b2b3b4b5b6aAbBc7b8b9c30b1b",
    "2b3b4b5aAc6b7b8b9c40b1b2b3b4b5b6eT001b2b3aAc4b5b6b7aAc8aAc9aAd10b1aAc2b3b4b5b6aAc7b8b9c20b1b",
    "2b3b4b5b6b7b8b9c30b1b2aAc3aAc4b5b6eU001b2b3b4b5b6aAbBc7b8b9c10b1b2b3b4b5b6b7b8b9c20b1b2b3aAc",
    "4b5b6b7b8b9aAd30b1b2aAc3b4b5b6b7b8b9c40b1b2eV001aAbBbCbDbEbFbGbHbIc2aAc3b4b5b6b7aAbBc8b9c10b",
    "1aAbBbCc2aAbBc3b4b5b6b7b8b9c20aAbBbCbDbEbFbGbHbIbJbKbLc1b2b3aAc4b5b6b7b8aAc9aAd30aAc1aAc2b3a",
    "Ac4b5b6b7aAc8b9c40aAeERTICAL JOINERpW001b2b3aAc4b5b6b7b8b9aAd10aAc1b2b3b4aAc5b6b7aAc8aAc9c20",
    "b1b2b3b4aAc5eX001b2b3b4aAbBc5b6aAc7b8aAfY001aAc2b3b4b5b6b7b8eZ001b2aAbBbCbDc3aAbBc4aAc5aAc6b",
    "7b8b9c10b1b2b3b4b5aAbBbCbDbEbFbGbHbIc6aAbBbCbDbEbFbGbHyIGHT PETALLED OUTLINED BLACK FLORETTE",
    "zgOINTED BLACK STARkPINWHEEL STARnRECTILINEAR BLACK STARzfSPOKED ASTERISKpTEARDROP-SPOKED PR",
    "OPELLER ASTERISKzkH NOTEkJECT SYMBOLlLBASAN LETTER AbBEcCEbHEdDEbHEdEaIcFEcGEbHAMMAeEcJEdHEc",
    "IbJEcKEbHEdLEbLEdMEcNAbDEcEbJEdObPEcQEcREbREdSEbHEdTEbHEdUbVEcXEcYbZEbHEqECTRIC ARROWfLIGHT ",
    "BULBkPLUGeTORCHgAL INTERSECTIONuMENT OFa OPENING DOWNWARDSjUPWARDSpWITH DOT ABOVEjLONG HORIZ",
    "ONTAL STROKEwOVERBARhTWO HORIZONTAL STROKESwUNDERBARiVERTICAL BAR AT END OF HORIZONTAL STROK",
    "EzzdPHANTfVATORgFbYMAIC LETTER ALEPHeYINeBETHeDALETHgGIMELfHEaTHeKAPHeLAMEDHgMEMdNUNdPEcQOPH",
    "eRESHeSADHEdMEKHfHINeTAWcETHeWAWdYODHeZAYINlIGATURE ZAYIN-YODHzbM DASHeQUADeSPACEgOJI COMPON",
    "ENT BALDeCURLY HAIRkRED HAIRiWHITE HAIRuMODIFIER FITZPATRICK TYPE-1-2d3b4b5b6zgPHASIS SYMBOL",
    "mTY DOCUMENTiNESTdOTEa PADbGEjPAGEaSfSETa WITH LEFT ARROW ABOVEqOVERBARhRIGHT ARROW ABOVErSM",
    "ALL CIRCLE ABOVEzhN DASHeQUADeSPACEgD OF GUARDED AREAmLINEeMEDIUMgPROOFcTECTED AREAoSELECTED",
    " AREAnTEXTdRANSMISSIONa BLOCKvWITH LEFTWARDS ARROW ABOVEzdQaUIRYfTER SYMBOLkVELOPEa WITH DOW",
    "NWARDS ARROW ABOVEvLIGHTNINGwOLbMbTcPAcQUAL AND PARALLEL TOpTO BY DEFINITIONnOR GREATER-THAN",
    "mLESS-THANjPRECEDESiSUCCEEDSpS COLONfSIGNa ABOVE LEFTWARDS ARROWpPLUS SIGNjRIGHTWARDS ARROWq",
    "TILDE OPERATORtND SLANTED PARALLELa WITH TILDE ABOVEzmWITH BUMPY ABOVElDOT BELOWjINFINITY BE",
    "LOWoTWO DOTS ABOVE AND TWO DOTS BELOWzsWITH ASTERISKrIANGULAR TOkVALENT TOcWITH FOUR DOTS AB",
    "OVEzfRASE TO THE LEFTeRIGHTqIS FORM ONEdTWOlROR-BARRED BLACK CIRCLEgDIAMONDhSQUAREmWHITE CIR",
    "CLEgDIAMONDhSQUAREySAbCaAPEeTIMATED SYMBOLiSiTBbHIOPIC COLONdMBINING GEMINATION AND VOWEL LE",
    "NGTH MARKvMARKpVOWEL LENGTH MARKyMAfDIGIT EIGHTfFIVEdOUReNINEeONEdSEVENeIXdTHREEeWOjFULL STO",
    "PjNUMBER EIGHTYgFIFTYeORTYfHUNDREDhNINETYgSEVENTYgIXTYfTENa THOUSANDlHIRTYfWENTYnPARAGRAPH S",
    "EPARATORsREFACE COLONnQUESTION MARKnSECTION MARKkMICOLONiYLLABLE BAaAcBAaAcEaEcIbObUcEaEcIbO",
    "aAcUbWAbEaEcIdCAaAcCAaAcEaEcHAaAcEaEcHAaAcEaEcIbObUcIbObUcIbObUcEaEcHAaAcEaEcIbOaAcUbWAdIbOa",
    "AcUbWAdDAaAcDAaAcEaEcHAAcEaEcIbObUcIbOaAcUbWAdEaEcIbOaAcUbWAcZAAcEaEcIbObUdFAaAcEaEcIbObUbWA",
    "bEaEcIcYAdGAaAcEaEcGAaAcEaEcIbObUbWAaAcEaEcIdIbLOTTAL AaAcEaEcIbOaAcUbWAjOaAcUaRAGE BWEEcIdF",
    "WEEcIdGWEaEcIdHHWAeKWEaEcIdMWEEcIdPWEEcIdQWEaEcIjWAaAcEaEcIcYAaAcEaEcIbObUdHAaAcEaEcHAaAcEaE",
    "cIbObUbWAbEaEcIcYAaAcEaEcIbObUdIbOaAcUcJAaAcEaEcIbOaAcUbWAdKAaAcEaEcIbOaAcUbWAaAcEaEcIcXAaAc",
    "EaEcIbObUbWAaAcEaEcIdYAaAcEaEcIbObUdLAaAcEaEcIbOaAcUbWAdMAaAcEaEcIbOaAcUbWAbEaEcIcYAdNAaAcEa",
    "EcIbOaAcUbWAcYAaAcEaEcIbOaAcUbWAePAaAcEaEcHAaAbRYNGEAL AaAcEaEcIbObUkEaEcIbOaAcUbWAdIbOaAcUb",
    "WAbEaEcIdQAaAcEaEcHAaAcEaEcIbObUbWAaAcEaEcIdIbOaAcUbWAaAcEaEcIcYAaAcEaEcIbObUdRAaAcEaEcIbOaA",
    "cUbWAcYAdSAaAcEaBATBEIT BWAdFWAdMWAdPWAlEcHAaAcEaEcIbOaAcUbWAdIbOaAcSAaAcEaEcIbObUcUbWAcZAaA",
    "cEaEcIbObUbWAeTAaAcEaEcHAaAcEaEcIbOaAcUbWAdIbOaAcSAaAcEaEcIbObUbWAdTHAAcEaEcIbObUdUbWAcZAaAc",
    "EaEcIbOaAcUdVAaAcEaEcIbObUbWAdWAaAcEaEcIbOaAcUcXAaAcEaEcIbOaAcUbWAaAcEaEcIcYAaAcEaEcIbObUdYA",
    "aAcEaEcIbOaAcUcZAaAcEaEcHAaAcEaEcIbObUbWAdIbOaAcUbWAcZAaAcEaEcIbObUmTONAL MARK CHIRETgDERETa",
    "-HIDETkIFATfHIDETfKENATeURTeRIKRIKgSHORT RIKRIKmYIZETqWORDSPACEqXcULER CONSTANTmRO SIGNf-CUR",
    "RENCY SIGNoPEAN CASTLEgPOST OFFICEtVERGREEN TREEnXCESSdLAMATION MARKeQUESTION MARKxPRESSIONL",
    "ESS FACErTENDED ARABIC-INDIC DIGIT EIGHTfFIVEdOUReNINEeONEdSEVENeIXdTHREEeWOdZEROzeRATERREST",
    "RIAL ALIENsEMELY HEAVY FIVE SPOKED ASTERISKuGREEK CROSSlSALTIREgIX SPOKED ASTERISKtWHITE CIR",
    "CLEgSQUAREzcYEaGLASSEShSeFACE HOLDING BACK TEARSsMASSAGEhPALMeSAVOURING DELICIOUS FOODxCREAM",
    "ING IN FEARrTHROWING A KISSpWITH COLD SWEATiWBOY HATkDIAGONAL MOUTHoFINGER COVERING CLOSED L",
    "IPSzcHEAD-BANDAGEmLOOK OF TRIUMPHpMEDICAL MASKlONOCLEhNO GOOD GESTUREpOK GESTUREjNE EYEBROW ",
    "RAISEDrPEN EYES AND HAND OVER MOUTHyMOUTHa AND COLD SWEAToVOMITINGtPARTY HORN AND PARTY HATx",
    "EEKING EYEkLEADING EYESnROLLING EYESmSTUCK-OUT TONGUEa AND TIGHTLY-CLOSED EYEStWINKING EYEzh",
    "TEARS OF JOYlHERMOMETERlUNEVEN EYES AND WAVY MOUTHzcOUT MOUTHpSIMILE SIGNlTORYfIRYdLAFELeLEN",
    " LEAFhING DIAGONAL CROSSING NORTH EAST ARROWqRISING DIAGONALyIN WHITE CIRCLE IN BLACK SQUARE",
    "zvMILYeRSI SYMBOLkTHER CHRISTMASoX ICONeMACHINEkEARFUL FACEjTHERfMALE SIGNiININE ORDINAL IND",
    "ICATORyNCEReRRIS WHEELiYeFbIELD HOCKEY STICK AND BALLzGURE DASHeSPACEkLE CABINEThFOLDERgSEPA",
    "RATORlM FRAMESgPROJECTORmNITE PART INTEGRALsREa ENGINEfXTINGUISHERnCRACKERhWORK SPARKLERjSgS",
    "T PLACE MEDALlQUARTER MOONa SYMBOLgWITH FACEwSTRONG ISOLATEsSHa CAKE WITH SWIRL DESIGNxEYEdI",
    "NG POLE AND FISHsTED HAND SIGNoVE DOT MARKePUNCTUATIONtLAG IN HOLEjMINGOfT SHOEfBREADfNESSgE",
    "UR-DE-LISjXED BICEPSlOPPY DISKiRAL HEARTjWERa PLAYING CARDSmUNCTUATION MARKvUSHED FACEkYaING",
    " DISCeENVELOPEiSAUCERmOGaGYdLDEReNDUEeOTaPRINTSiR ALLeCESdK AND KNIFEa WITH PLATEvED PARAGRA",
    "PHOSoINGeM FEEDgTUNE COOKIEmUNTAINfR BALLOON-SPOKED ASTERISKxCLUB-SPOKED ASTERISKtORNER ARRO",
    "WS CIRCLING ANTICLOCKWISEzlDOT MARKePUNCTUATIONpLEAF CLOVERlPOINTED BLACK STARsTEARDROP-SPOK",
    "ED ASTERISKz-PER-EM SPACEnTH ROOTjX FACEhRACTION NUMERATOR ONEnSLASHlME WITH AN XePICTUREhTI",
    "LESoEEZING FACEkNCH FRANC SIGNiIESkIED SHRIMPkOG FACEgNT-FACING BABY CHICKrTILTED SHADOWED W",
    "HITE RIGHTWARDS ARROWzqWNaING FACE WITH OPEN MOUTHzdSaIcUEL PUMPhLL BLOCKfMOON SYMBOLgWITH F",
    "ACEoOUTER JOINkSTOPfWIDTH AMPERSANDiPOSTROPHEjSTERISKiBROKEN BARkCENT SIGNiIRCUMFLEX ACCENTq",
    "OLONdMMAbERCIAL ATnDIGIT EIGHTfFIVEdOUReNINEeONEdSEVENeIXdTHREEeWOdZEROjOLLAR SIGNlEQUALS SI",
    "GNkXCLAMATION MARKqFULL STOPjGRAVE ACCENTkEATER-THAN SIGNrHYPHEN-MINUSmLATIN CAPITAL LETTER ",
    "AbBbCbDbEbFbGbHbIbJbKbLbMbNbObPbQbRbSbTbUbVbWbXbYbZqSMALL LETTER AbBbCbDbEbFbGbHbIbJbKbLbMbN",
    "bObPbQbRbSbTbUbVbWbXbYbZtEFT CURLY BRACKETnPARENTHESISlSQUARE BRACKEToWHITE PARENTHESISuSS-T",
    "HAN SIGNnOW LINEiMACRONgNOT SIGNhUMBER SIGNlPERCENT SIGNlLUS SIGNiOUND SIGNkQUESTION MARKlOT",
    "ATION MARKoREVERSE SOLIDUSoIGHT CURLY BRACKETnPARENTHESISlSQUARE BRACKEToWHITE PARENTHESISxS",
    "EMICOLONiOLIDUShTILDEfVERTICAL LINEnWON SIGNiYEN SIGNqNCTION APPLICATIONrERAL URNjSEdVS1b2b3",
    "b4eGAME DIEgRLICfEARa WITH HANDLESiOUT HUBoM STONEgINIeNIEdOMETRIC PROPORTIONlALLY EQUAL TOf",
    "IVALENT TOyRGIAN CAPITAL LETTER AENcNcBANdCANcHARcINdILdDONdENcGANcHANeHAEbRcEbIEcOEdINcJHAN",
    "dILdKANcHAReLASdMANdNARdONcPARcHAReQARdRAEdSANcHINeTANbRdUNcVINdWEcXANdYNcZENcHARtLETTER AEN",
    "cINcNcBANdCANcHARcINdILdDONdELIFIeNcFIcGANcHANeHAEbRaD SIGNiEbIEcOEdINcJHANdILdKANcHAReLABIA",
    "L SIGNjSdMANdNARdONcPARcHAReQARdRAEdSANcHINeTANbRcURNED GANkUNcVINdWEcXANdYNcZENcHARlMTAVRUL",
    "I CAPITAL LETTER AENcINcNcBANdCANcHARcINdILdDONdELIFIeNcFIcGANcHANeHAEbRaD SIGNiEbIEcOEdINcJ",
    "HANdILdKANcHAReLABIAL SIGNjSdMANdNARdONcPARcHAReQARdRAEdSANcHINeTANbRcURNED GANkUNcVINdWEcXA",
    "NdYNcZENcHARzdPARAGRAPH SEPARATORtSMALL LETTER AENcNcBANdCANcHARcINdILdDONdENcGANcHANeHAEbRc",
    "EbIEcOEdINcJHANdILdKANcHAReLASdMANdNARdONcPARcHAReQARdRAEdSANcHINeTANbRdUNcVINdWEcXANdYNcZEN",
    "cHARyRMAN PENNY SIGNpTA MARKiHOSTeIMEL SYMBOLkRAFFE FACEjLaS SYMBOLlLAGOLITIC CAPITAL LETTER",
    " AZUdBIG YUSgUKYeCAUDATE CHRIVInHRIVIgDJERVIfOBROeZELOfFITAdRITUfGLAGOLIhHERUeIaNITIAL IZHEl",
    "OTATED BIG YUShSMALL YUSqZHEbITSAhKAKOeLATINATE MYSLITEpJUDIJEhMYSLITEhNASHIfONUcTUdPEbOKOJI",
    "gRITSIfSHAbTAaPICgLOVOeMALL YUSa WITH TAILsPIDERY HAkTROKUTASTI AlSIcVRIDOgUKUdVEDEeYATIdERI",
    "bUcSTUeObUcZEMLJAfHIVETEwSMALL LETTER AZUdBIG YUSgUKYeCAUDATE CHRIVInHRIVIgDJERVIfOBROeZELOf",
    "FITAdRITUfGLAGOLIhHERUeIaNITIAL IZHElOTATED BIG YUShSMALL YUSqZHEbITSAhKAKOeLATINATE MYSLITE",
    "pJUDIJEhMYSLITEhNASHIfONUcTUdPEbOKOJIgRITSIfSHAbTAaPICgLOVOeMALL YUSa WITH TAILsPIDERY HAkTR",
    "OKUTASTI AlSIcVRIDOgUKUdVEDEeYATIdERIbUcSTUeObUcZEMLJAfHIVETEzdSS OF MILKlEICH STARKkOBE WIT",
    "H MERIDIANSrVESdWING STARlOAL NETfTcGGLESfLFEReRILLAfTHIC LETTER AHSAdIHVUSgBAIRKANhDAGSeEIS",
    "dFAIHUfGIBAeHAGLdWAIRfIGGWSeUJAeJERdKUSMAfLAGUSfMANNAfNAUTHSfINE HUNDREDiTYgOTHALfPAIRTHRAiQ",
    "AIRTHRAiRAIDAfSAUILfTEIWSeHIUTHgURUSeWINJAsRADUATION CAPlNTHA AU LENGTH MARKoLETTER AaAbIbUc",
    "BAbHAdCAbHAdDAbDAbHAdHAdEEcGAbHAdHAcIaIcJAbHAdKAbHAdLAbLAdMAcNAbGAcNAcYAdOOcPAbHAdRAcSAbHAcS",
    "AdTAbHAcTAbHAeUaUcVAbEDIC ANUSVARAiDOUBLE ANUSVARAuOCALIC LaLcRaRkYAjOMcSIGN ANUSVARAhVAGRAH",
    "AiCANDRABINDUkOMBINING ANUSVARA ABOVEyNUKTAfPLUTAfVIRAMAeSARGAmVOWEL SIGN AAbIbUcEEcIaIcOOcU",
    "aUcVOCALIC LaLcRaRzbPESdVE ACCENTkEATER-THAN ABOVE DOUBLE-LINE EQUAL ABOVE LESS-THANziLESS-T",
    "HAN ABOVE DOUBLE-LINE EQUALziRIGHTWARDS ARROWqSIMILAR ABOVE LESS-THANpOR EQUALpLANTED EQUAL ",
    "ABOVE LESS-THAN ABOVE SLANTED EQUALzzeND NOT APPROXIMATEpSINGLE-LINE NOT EQUAL TOzdBESIDE LE",
    "SS-THANpUT NOT EQUAL TOfIVALENT TOvCLOSED BY CURVEa ABOVE SLANTED EQUALzkEQUAL TO OR LESS-TH",
    "ANvOR APPROXIMATElEQUAL TOfIVALENT TOnLESS-THANjSLANTED EQUAL TOa WITH DOT ABOVEa LEFTkINSID",
    "EzjVER EQUAL TOjLAPPING LESS-THANvSIGNeWITH CIRCLE INSIDEnDOTdQUESTION MARK ABOVEzjEK ACROPH",
    "ONIC ATTIC FIFTYa STATERShTALENTSgHOUSANDa STATERSuVEa HUNDREDa STATERShTALENTSpSTATERShTALE",
    "NTSgHOUSANDa TALENTSvONE DRACHMAhHALFdUNDRED STATERShTALENTSpQUARTERhTHOUSAND STATERShTALENT",
    "SuTEN MNASeSTATERShTALENTSgHOUSAND STATERSzbCARYSTIAN FIVE HUNDREDvYRENAIC TWO DRACHMASvDELP",
    "HIC FIVE MNASrEPIDAUREAN FIVE HUNDREDmTWOa DRACHMASxHERAEUM ONE PLETHRONrMIONIAN FIFTYfONEdT",
    "ENoMESSENIAN TENnNAXIAN FIVE HUNDREDtSTRATIAN FIFTY MNAStTHESPIAN FIFTYdVE HUNDREDhTHOUSANDn",
    "ONEa HUNDREDhTHOUSANDmTENcHIRTYeREE HUNDREDmWOlROEZENIAN FIFTYa ALTERNATE FORMsVEa HUNDREDmT",
    "ENa ALTERNATE FORMzoNO TELEIAjROURA SIGNjTABE SIGNlBETA SYMBOLlCAPITAL DOTTED LUNATE SIGMA S",
    "YMBOLzbKAI SYMBOLkLETTER ALPHAa WITH DASIAa AND OXIAa AND PROSGEGRAMMENIxPERISPOMENIa AND PR",
    "OSGEGRAMMENIzeROSGEGRAMMENIoVARIAa AND PROSGEGRAMMENIzjMACRONgOXIAePROSGEGRAMMENInSILIa AND ",
    "OXIAa AND PROSGEGRAMMENIxPERISPOMENIa AND PROSGEGRAMMENIzeROSGEGRAMMENIoVARIAa AND PROSGEGRA",
    "MMENIzjTONOSfVARIAeRACHYqRCHAIC SAMPInBETAeCHIdDELTAfEPSILONa WITH DASIAa AND OXIAeVARIApOXI",
    "AePSILIa AND OXIAeVARIApTONOSfVARIArTAa WITH DASIAa AND OXIAa AND PROSGEGRAMMENIxPERISPOMENI",
    "a AND PROSGEGRAMMENIzeROSGEGRAMMENIoVARIAa AND PROSGEGRAMMENIzjOXIAePROSGEGRAMMENInSILIa AND",
    " OXIAa AND PROSGEGRAMMENIxPERISPOMENIa AND PROSGEGRAMMENIzeROSGEGRAMMENIoVARIAa AND PROSGEGR",
    "AMMENIzjTONOSfVARIAoGAMMAfHETAeIOTAa WITH DASIAa AND OXIAePERISPOMENIlVARIAoIALYTIKAjMACRONg",
    "OXIAePSILIa AND OXIAePERISPOMENIlVARIApTONOSfVARIAeRACHYqKAPPAfLAMDAfMUcNUcOMEGAa WITH DASIA",
    "a AND OXIAa AND PROSGEGRAMMENIxPERISPOMENIa AND PROSGEGRAMMENIzeROSGEGRAMMENIoVARIAa AND PRO",
    "SGEGRAMMENIzjOXIAePROSGEGRAMMENInSILIa AND OXIAa AND PROSGEGRAMMENIxPERISPOMENIa AND PROSGEG",
    "RAMMENIzeROSGEGRAMMENIoVARIAa AND PROSGEGRAMMENIzjTONOSfVARIAoICRONa WITH DASIAa AND OXIAeVA",
    "RIApOXIAePSILIa AND OXIAeVARIApTONOSfVARIAsPAMPHYLIAN DIGAMMArHIcIbSIdRHOa WITH DASIAoSANcHO",
    "cIGMAfTAUcHETAfUPSILONa WITH DASIAa AND OXIAePERISPOMENIlVARIAoIALYTIKAjMACRONgOXIAeTONOSfVA",
    "RIAeRACHYtXIcYOTdZETAkUNATE SIGMA SYMBOLtREVERSED DOTTED LUNATE SIGMA SYMBOLzbLUNATE SIGMA S",
    "YMBOLzdTHETA SYMBOLuDASIAa AND OXIAePERISPOMENIlVARIAoIALYTIKA AND OXIAePERISPOMENIlVARIAjTO",
    "NOSoRACHMA SIGNmFIVE OBOLS SIGNoOUR OBOLS SIGNpGRAMMA SIGNlINDICTION SIGNmSTRUMENTAL NOTATIO",
    "N SYMBOL-1a1b2b3b4b7b8b9c2a3b4b5b6b7b9c30b2b6b7b8b9c4a0b2b3b5b7b8b9c5a0b1b2b3b4c7b8zfKAI SYM",
    "BOLiPPA SYMBOLlORONISgYATHOS BASE SIGNrLETTER ARCHAIC KOPPAnDIGAMMAhKOPPAfSAMPIeMALL CAPITAL",
    " GAMMAfLAMDAfOMEGAfPIbSIdRHOqTIGMAgYOTjITRA SIGNjOWER NUMERAL SIGNrUNATE EPSILON SYMBOLoSIGM",
    "A SYMBOLtMETRETES SIGNmUSICAL LEIMMAoNUMERAL SIGNmOBOL SIGNiNE HALF SIGNa ALTERNATE FORMyQUA",
    "RTER SIGNpUNKIA SIGNkXIAePERISPOMENIkHI SYMBOLjI SYMBOLiROSGEGRAMMENInSILIa AND OXIAePERISPO",
    "MENIlVARIApQUESTION MARKnREVERSED LUNATE EPSILON SYMBOLzeHO SYMBOLgWITH STROKE SYMBOLwSINUSO",
    "ID SIGNmMALL DOTTED LUNATE SIGMA SYMBOLzbLETTER ALPHAa WITH DASIAa AND OXIAa AND YPOGEGRAMME",
    "NIwPERISPOMENIa AND YPOGEGRAMMENIzeVARIAa AND YPOGEGRAMMENIxYPOGEGRAMMENIxMACRONgOXIAa AND Y",
    "POGEGRAMMENIwPERISPOMENIa AND YPOGEGRAMMENIzdSILIa AND OXIAa AND YPOGEGRAMMENIwPERISPOMENIa ",
    "AND YPOGEGRAMMENIzeVARIAa AND YPOGEGRAMMENIxYPOGEGRAMMENIxTONOSfVARIAa AND YPOGEGRAMMENIwRAC",
    "HYgYPOGEGRAMMENIxRCHAIC KOPPAfSAMPInBETAeCHIdDELTAeIGAMMAhEPSILONa WITH DASIAa AND OXIAeVARI",
    "ApOXIAePSILIa AND OXIAeVARIApTONOSfVARIArTAa WITH DASIAa AND OXIAa AND YPOGEGRAMMENIwPERISPO",
    "MENIa AND YPOGEGRAMMENIzeVARIAa AND YPOGEGRAMMENIxYPOGEGRAMMENIxOXIAa AND YPOGEGRAMMENIwPERI",
    "SPOMENIa AND YPOGEGRAMMENIzdSILIa AND OXIAa AND YPOGEGRAMMENIwPERISPOMENIa AND YPOGEGRAMMENI",
    "zeVARIAa AND YPOGEGRAMMENIxYPOGEGRAMMENIxTONOSfVARIAa AND YPOGEGRAMMENIxYPOGEGRAMMENIwFINAL ",
    "SIGMAlGAMMAfHETAeIOTAa WITH DASIAa AND OXIAePERISPOMENIlVARIAoIALYTIKAa AND OXIAePERISPOMENI",
    "lTONOSfVARIAtMACRONgOXIAePERISPOMENIkSILIa AND OXIAePERISPOMENIlVARIApTONOSfVARIAeRACHYqKAPP",
    "AeOPPAfLAMDAfMUcNUcOMEGAa WITH DASIAa AND OXIAa AND YPOGEGRAMMENIwPERISPOMENIa AND YPOGEGRAM",
    "MENIzeVARIAa AND YPOGEGRAMMENIxYPOGEGRAMMENIxOXIAa AND YPOGEGRAMMENIwPERISPOMENIa AND YPOGEG",
    "RAMMENIzdSILIa AND OXIAa AND YPOGEGRAMMENIwPERISPOMENIa AND YPOGEGRAMMENIzeVARIAa AND YPOGEG",
    "RAMMENIxYPOGEGRAMMENIxTONOSfVARIAa AND YPOGEGRAMMENIxYPOGEGRAMMENIwICRONa WITH DASIAa AND OX",
    "IAeVARIApOXIAePSILIa AND OXIAeVARIApTONOSfVARIAsPAMPHYLIAN DIGAMMArHIcIbSIdRHOa WITH DASIAfP",
    "SILIoSAMPIdNcHOcIGMAeTIGMAgTAUcHETAfUPSILONa WITH DASIAa AND OXIAePERISPOMENIlVARIAoIALYTIKA",
    "a AND OXIAePERISPOMENIlTONOSfVARIAtMACRONgOXIAePERISPOMENIkSILIa AND OXIAePERISPOMENIlVARIAp",
    "TONOSfVARIAeRACHYtXIcZETAlREVERSED DOTTED LUNATE SIGMA SYMBOLzbLUNATE SIGMA SYMBOLziUBSCRIPT",
    " SMALL LETTER BETAeCHIdGAMMAfPHIdRHOzYMBOL TAU RHOoTALENT SIGNkHETA SYMBOLkREE OBOLS SIGNkQU",
    "ARTERS SIGNsONOSeRYBLION BASE SIGNrWO OBOLS SIGNkTHIRDS SIGNpUPSILON WITH ACUTE AND HOOK SYM",
    "BOLvDIAERESIS AND HOOK SYMBOLzHOOK SYMBOLyVARIAeOCAL NOTATION SYMBOL-1a0b1b2b3b4b5b6b7b8b9c2",
    "a0b1b2b3b4c3b4b5a0b1b2b3b4c6b7b8b9xXESTES SIGNlYEAR SIGNiPOGEGRAMMENInZERO SIGNlN APPLEfBOOK",
    "eHEARTfSALADjIMACING FACElNNING CAT FACE WITH SMILING EYESzbFACEa WITH ONE LARGE AND ONE SMA",
    "LL EYEzcSMILING EYESlTAR EYESzbOUP MARKeSEPARATORmWING HEARTmSbUARANI SIGNiDSMANhIDE DOGgTAR",
    "eJARATI ABBREVIATION SIGNrDIGIT EIGHTfFIVEdOUReNINEeONEdSEVENeIXdTHREEeWOdZEROkLETTER AaAbIb",
    "UcBAbHAdCAbHAdDAbDAbHAdHAdEbGAbHAdHAcIaIcJAbHAdKAbHAdLAbLAdMAcNAbGAcNAcYAdObPAbHAdRAcSAbHAcS",
    "AdTAbHAcTAbHAeUaUcVAbOCALIC LaLcRaRkYAcZHAkOMcRUPEE SIGNkSIGN ANUSVARAhVAGRAHAiCANDRABINDUkI",
    "RCLE NUKTA ABOVEsMADDAHgNUKTAfSHADDAfUKUNfTHREE-DOT NUKTA ABOVEuWO-CIRCLE NUKTA ABOVEwVIRAMA",
    "eSARGAmVOWEL CANDRA EbOiSIGN AAbIbUcCANDRA EbOiEbIaIcObUaUcVOCALIC LaLcRaRzdNJALA GONDI DIGI",
    "T EIGHTfFIVEdOUReNINEeONEdSEVENeIXdTHREEeWOdZEROkLETTER AaAbIbUcBAbHAdCAbHAdDAbDAbHAdHAdEEcG",
    "AbHAdHAcIaIcJAbHAdKAbHAdLAbLAdMAcNAbGAdOOcPAbHAdRAcSAcTAbHAcTAbHAeUaUcVAcYAjOMcSIGN ANUSVARA",
    "iVISARGAmVIRAMAfOWEL SIGN AAbIbUcEEcIaIcOOcUaUzRMUKHI ABBREVIATION SIGNqDDAKfDIGIT EIGHTfFIV",
    "EdOUReNINEeONEdSEVENeIXdTHREEeWOdZEROkEK ONKARiIRIdLETTER AaAbIbUcBAbHAdCAbHAdDAbDAbHAdHAdEE",
    "cFAcGAbHAbHAeHAcIaIcJAbHAdKAbHAbHAeLAbLAdMAcNAbGAcNAcYAdOOcPAbHAdRAbRAdSAbHAdTAbHAcTAbHAeUaU",
    "cVAcYAcZAjSIGN ADAK BINDIkBINDIfNUKTAfUDAATfVIRAMAeSARGAhYAKASHlTIPPIfURAdVOWEL SIGN AAbIbUc",
    "EEcIaIcOOcUaUwHADESdIR SPACEgCUTfLFWIDTH BLACK SQUAREmDOWNWARDS ARROWpFORMS LIGHT VERTICALuH",
    "ANGUL FILLERgLETTER AaEcCHIEUCHgIEUCfEaObUcHIEUHfIaEUNGfKHIEUKHgIYEOKa-SIOSlMIEUMfNIEUNa-CIE",
    "UCfHIEUHlOaEcPHIEUPHgIEUPa-SIOSkRIEULa-HIEUHfKIYEOKgMIEUMfPHIEUPHgIEUPfSIOSeTHIEUTHnSIOSdSAN",
    "GCIEUCfKIYEOKgPIEUPfSIOSeTIKEUTlTHIEUTHgIKEUTgUbWAaEcEaOcIcYAaEcEaOcIbObUqIDEOGRAPHIC COMMAf",
    "FULL STOPvKATAKANA LETTER AbEbHAbEbIbObUcIbKAbEbIbObUcMAbEbIbObUcNaAbEbIbObUcObRAbEbIbObUcSA",
    "bEbIbMALL AbEbIbObTUcUbYAbObUhObUcTAbEbIbObUcUbWAbOcYAbObUjMIDDLE DOTkSEMI-VOICED SOUND MARK",
    "wVOICED SOUND MARKs-HIRAGANA PROLONGED SOUND MARKznLEFT CORNER BRACKETpWARDS ARROWpRIGHT COR",
    "NER BRACKETpWARDS ARROWqUPWARDS ARROWnWHITE CIRCLEuMBURGERgMERa AND PICKeSICKLEgWRENCHoSAbTE",
    "R FACEkND WITH INDEX AND MIDDLE FINGERS CROSSEDzbFINGER AND THUMB CROSSEDzlBAGbLLeSHAKEgGUL ",
    "CHOSEONG CEONGCHIEUMCHIEUCHgIEUCfSIOSdSANGCIEUCfSIOStHIEUCHa-HIEUHfKHIEUKHmTUEUMCHIEUCHgIEUC",
    "fSIOSdSANGCIEUCfSIOSqIEUCa-IEUNGlFILLERgHIEUHa-SIOSkIEUNGa-CHIEUCHgIEUCfHIEUHfKIYEOKgMIEUMfP",
    "ANSIOSgHIEUPHgIEUPfRIEULfSIOSeTHIEUTHgIKEUTmKAPYEOUNMIEUMfPHIEUPHgIEUPfRIEULfSSANGPIEUPrHIEU",
    "KHgIYEOKa-TIKEUTnMIEUMa-KIYEOKgPIEUPfSIOSeTIKEUTmNIEUNa-CIEUCfHIEUHfKIYEOKgPIEUPfSIOSeTIKEUT",
    "mPANSIOSgHIEUPHa-HIEUHfPIEUPmIEUPa-CHIEUCHgIEUCfHIEUHfKHIEUKHgIYEOKgNIEUNfPHIEUPHhSIOSa-CIEU",
    "CfKIYEOKgPIEUPfTHIEUTHgIKEUTkSANGSIOSjTHIEUTHgIKEUTmRIEULa-CIEUCfHIEUHfKAPYEOUNPIEUPmHIEUKHg",
    "IYEOKgMIEUMfNIEUNfPIEUPfSIOSdSANGKIYEOKgPIEUPfTIKEUTlTIKEUTmSIOSa-CHIEUCHgIEUCfHIEUHfIEUNGfK",
    "HIEUKHgIYEOKgMIEUMfNIEUNfPHIEUPHgIEUPa-KIYEOKmRIEULfSSANGSIOSjTHIEUTHgIKEUTkSANGCIEUCa-HIEUH",
    "lHIEUHfIEUNGfKIYEOKgNIEUNfPIEUPfRIEULfSIOSa-PIEUPkTHIEUTHgIKEUTgYEORINHIEUHqTHIEUTHgIKEUTa-C",
    "IEUCfKIYEOKgMIEUMfPIEUPfRIEULfSIOSlYEORINHIEUHjSIEUNGrDOUBLE DOT TONE MARKuFILLERgJONGSEONG ",
    "CHIEUCHgIEUCa-PIEUPfSSANGPIEUPqHIEUHa-MIEUMfNIEUNfPIEUPfRIEULlIEUNGa-KHIEUKHgIYEOKgSSANGKIYE",
    "OKrKAPYEOUNMIEUMfPHIEUPHgIEUPfRIEULmHIEUKHgIYEOKa-CHIEUCHhHIEUHfKHIEUKHhNIEUNfPIEUPfRIEULfSI",
    "OSa-KIYEOKsMIEUMa-CHIEUCHgIEUCfHIEUHfKIYEOKgNIEUNfPANSIOSgIEUPa-SIOSkRIEULfSIOSdSANGNIEUNfSI",
    "OSpNIEUNa-CHIEUCHgIEUCfHIEUHfKIYEOKgPANSIOShRIEULfSIOSeTHIEUTHgIKEUTmPANSIOSa-KAPYEOUNPIEUPn",
    "PIEUPmHIEUPHa-PIEUPfSIOSeTHIEUTHoIEUPa-CHIEUCHgIEUCfHIEUHfMIEUMfPHIEUPHhRIEULa-PHIEUPHnSIOSa",
    "-TIKEUTlTIKEUTmRIEULa-HIEUHfKAPYEOUNPIEUPmHIEUKHgIYEOKa-HIEUHfSIOSlMIEUMa-HIEUHfKIYEOKgSIOSk",
    "NIEUNfPANSIOSgHIEUPHgIEUPa-HIEUHfPHIEUPHhSIOSeTIKEUTmSIOSdSANGKIYEOKgSIOSjTHIEUTHgIKEUTa-HIE",
    "UHmYEORINHIEUHa-HIEUHpSIEUNGoSIOSa-CHIEUCHgIEUCfHIEUHfKAPYEOUNPIEUPmIYEOKgMIEUMfPANSIOSgIEUP",
    "fRIEULfTHIEUTHgIKEUTkSANGCIEUCfIEUNGfKIYEOKgMIEUMfNIEUNfPIEUPfRIEULa-KHIEUKHnSIOSa-KIYEOKgTI",
    "KEUTlTIKEUTa-PIEUPmYESIEUNGnTHIEUTHgIKEUTa-CHIEUCHgIEUCfKIYEOKgPIEUPfRIEULfSIOSa-KIYEOKlTHIE",
    "UTHoYEORINHIEUHjSIEUNGa-HIEUHfKHIEUKHgIYEOKgMIEUMfPANSIOShSIOSdSANGKIYEOKzeUNGSEONG Aa-EUcOb",
    "UcEbRAEAa-AbEaOcIbUhEaOa-EUcObUdUa-AbEaObUcObUeFILLERgIa-AaRAEAfEUcIbOa-IdUbYAa-OcEcEaOcObUe",
    "Oa-EaOcOa-IdUbYAaEcEaOeEcSSANGARAEAkUa-AaEcEO-EUfI-IdUbYEaOfWAaEcEaOcIcYAa-ObUbYOdEcEaOa-ObU",
    "bYAfIa-UdOa-AaEcEOcIbObYAaEcEOfUa-AaEcEaOcIbObUbYEaOqLETTER AaEbRAEAaEgCHIEUCHgIEUCfEaObUcHI",
    "EUHfIaEUNGfKAPYEOUNMIEUMfPHIEUPHgIEUPfSSANGPIEUPrHIEUKHgIYEOKa-SIOSlMIEUMa-PANSIOSgIEUPfSIOS",
    "kNIEUNa-CIEUCfHIEUHfPANSIOShSIOSeTIKEUTmOaEcPANSIOSgHIEUPHgIEUPa-CIEUCfKIYEOKgSIOSa-KIYEOKgT",
    "IKEUTlTHIEUTHgIKEUTmRIEULa-HIEUHfKIYEOKa-SIOSlMIEUMfPANSIOSgHIEUPHgIEUPa-SIOSkSIOSeTHIEUTHgI",
    "KEUTgYEORINHIEUHrSIOSa-CIEUCfKIYEOKgNIEUNfPIEUPfTIKEUTkSANGCIEUCfHIEUHfIEUNGfKIYEOKgNIEUNfPI",
    "EUPfSIOSeTIKEUTlTHIEUTHgIKEUTgUbWAaEcEaOcIcYAaEcEaOaRINHIEUHjSIEUNGa-PANSIOShSIOSmIbOa-IbYAa",
    "EfUa-IbYEaOnSINGLE DOT TONE MARKxZHOU NUMERAL EIGHTfFIVEdOUReNINEeONEdSEVENeIXdTENcHIRTYeREE",
    "eWENTYeOrIFI ROHINGYA DIGIT EIGHTfFIVEdOUReNINEeONEdSEVENeIXdTHREEeWOdZEROkLETTER AbBAcCAcDA",
    "bDAdFAcGAcHAcJAcKAbHAcINNA WAcYAiLAcMAcNAbGAcYAdPAcRAbRAdSAbHAdTAbTAdVAcWAcYAcZAjMARK NA KHO",
    "NNAjSAKINkSIGN HARBAHAYiTAHALAeNAcSSIkVOWEL AbEbIbObUuUNOO LETTER AbBAcDAcGAcHAcIbKAcLAcMAcN",
    "AbGAdPAcRAcSAcTAcUbWAcYAjSIGN PAMUDPODnVOWEL SIGN IbUsPPY PERSON RAISING ONE HANDzcRD DISKhT",
    "CHING CHICKlRAN LETTER ALEPHeYNdBETHeDALETH-RESHlGIMELfHEaTHeKAPHeLAMEDHgMEMdNUNdPEcQOPHeSAD",
    "HEdMEKHfHINeTAWcETHeWAWdYODHeZAYNlNUMBER FIVEeONEa HUNDREDlTENcWENTYtEADPHONEfSTONEa GRAVEYA",
    "RD SYMBOLxR-NO-EVIL MONKEYpT DECORATIONkHANDSfWITH ARROWfRIBBONgTIP ON THE LEFTxVY AMPERSAND",
    " ORNAMENTrRROW SHAFT WIDTH ONEa HALFeTHIRDjTWO THIRDSzcSTERISKiBALLOT XhLACK CURVED DOWNWARD",
    "S AND RIGHTWARDS ARROWzfUPWARDS AND RIGHTWARDS ARROWzkHEARTg-FEATHERED NORTH EAST ARROWqRIGH",
    "TWARDS ARROWqSOUTH EAST ARROWzhCHECK MARKhVRON SNOWFLAKEqIRCLEa WITH CIRCLE INSIDEnSTROKE AN",
    "D TWO DOTS ABOVEzgD SALTIREoONCAVE-POINTED BLACK RIGHTWARDS ARROWznDASHED TRIANGLE-HEADED RI",
    "GHTWARDS ARROWznIVISION SIGNmOLLAR SIGNjUBLE COMMA QUOTATION MARK ORNAMENTzeTURNED COMMA QUO",
    "TATION MARK ORNAMENTzqWNWARDS ARROW WITH EQUILATERAL ARROWHEADvLARGE EQUILATERAL ARROWHEADzx",
    "EIGHT POINTED BLACK STARkPINWHEEL STARnRECTILINEAR BLACK STARzfSPOKED ASTERISKpTEARDROP-SPOK",
    "ED PROPELLER ASTERISKzoQUALS SIGNkXCLAMATION MARK ORNAMENTiSYMBOLxFIVE POINTED BLACK STARsSP",
    "OKED ASTERISKtOUR BALLOON-SPOKED ASTERISKzdGREEK CROSSlHEART EXCLAMATION MARK ORNAMENTzfORIZ",
    "ONTAL FILLpINTERROBANG ORNAMENTuLARGE CIRCLEkTIN CROSSkEFT-POINTING ANGLE BRACKET ORNAMENTqQ",
    "UOTATION MARK ORNAMENTzoWARDS ARROW WITH EQUILATERAL ARROWHEADvLARGE EQUILATERAL ARROWHEADzw",
    "IGATURE OPEN ET ORNAMENTyOW DOUBLE COMMA QUOTATION MARK ORNAMENTzlSINGLE COMMA QUOTATION MAR",
    "K ORNAMENTzmER RIGHT-SHADOWED WHITE RIGHTWARDS ARROWzsMINUS SIGNjULTIPLICATION XqNORTH EAST ",
    "ARROWfPOINTING BUDdVINE LEAFxWEST POINTING BUDdVINE LEAFzeOPEN CENTRE CROSSqUTLINED BLACK ST",
    "ARsVAL WITH OVAL INSIDEvPLUS SIGNjRIGHT-POINTING ANGLE BRACKET ORNAMENTqQUOTATION MARK ORNAM",
    "ENTzoWARDS ARROWa WITH EQUILATERAL ARROWHEADvLARGE EQUILATERAL ARROWHEADzxOUND-TIPPED RIGHTW",
    "ARDS ARROWzeSALTIREfNS-SERIF INTERROBANG ORNAMENTzfCRIPT LIGATURE ET ORNAMENTzbINGLE COMMA Q",
    "UOTATION MARK ORNAMENTzeTURNED COMMA QUOTATION MARK ORNAMENTzqX POINTED BLACK STARsSPOKED AS",
    "TERISKsOUTH EAST ARROWfPOINTING BUDdVINE LEAFxWEST POINTING BUDdVINE LEAFzdPARKLEhTEARDROP-S",
    "HANKED RIGHTWARDS ARROWxPOKED ASTERISKiPINWHEEL ASTERISKzhRIANGLE-HEADED RIGHTWARDS ARROWzgW",
    "ELVE POINTED BLACK STARkPINWHEEL STARzdUPPER RIGHT-SHADOWED WHITE RIGHTWARDS ARROWzqWARDS AR",
    "ROW WITH EQUILATERAL ARROWHEADvLARGE EQUILATERAL ARROWHEADzvVERTICAL BARmWEDGE-TAILED RIGHTW",
    "ARDS ARROWzdHITE CIRCLEgDOWN-POINTING TRIANGLEwSQUARElIDE-HEADED RIGHTWARDS ARROWzhBREW ACCE",
    "NT ATNAH HAFUKHmDARGAeEHIeETNAHTAhGERESHa MUQDAMkSHAYIMjILUYeMAHAPAKHhERKHAa KEFULAmUNAHfOLE",
    "dPASHTAeZERfQADMAdRNEY PARAlREVIAfSEGOLeHALSHELETkTELISHA GEDOLAgQETANAmVIReIPEHAgYERAH BEN ",
    "YOMOmTIVfZAQEF GADOLfQATANjRQAeINORmLETTER ALEFa WITH MAPIQfPATAHfQAMATSoTERNATIVE AYINePLUS",
    " SIGNuYINeBETa WITH DAGESHgRAFEnDALETa WITH DAGESHrFINAL KAFa WITH DAGESHpMEMdNUNdPEa WITH D",
    "AGESHoTSADIlGIMELa WITH DAGESHrHEa WITH MAPIQlTdKAFa WITH DAGESHgRAFEnLAMEDa WITH DAGESHrMEM",
    "a WITH DAGESHpNUNa WITH DAGESHpPEa WITH DAGESHgRAFEmQOFa WITH DAGESHpRESHa WITH DAGESHqSAMEK",
    "Ha WITH DAGESHrHINa WITH DAGESHa AND SHIN DOThIN DOTsSHIN DOThIN DOTrTAVa WITH DAGESHoETa WI",
    "TH DAGESHoSADIa WITH DAGESHrVAVa WITH DAGESHgHOLAMoWIDE ALEFeDALETfFINAL MEMjHEcKAFdLAMEDfRE",
    "SHeTAViYODa WITH DAGESHgHIRIQoZAYINa WITH DAGESHxIGATURE ALEF LAMEDkYIDDISH DOUBLE VAVdYODkV",
    "AV YODhYOD YOD PATAHzfMARK LOWER DOTjMASORA CIRCLEnUPPER DOToPOINT DAGESH OR MAPIQpHATAF PAT",
    "AHfQAMATSgSEGOLkIRIQeOLAMa HASER FOR VAVtJUDEO-SPANISH VARIKAuMETEGfPATAHfQAMATSa QATANlUBUT",
    "SgRAFEeSEGOLeHEVAdIN DOThIN DOThTSEREkUNCTUATION GERESHdSHAYIMjMAQAFfNUN HAFUKHAlPASEQfSOF P",
    "ASUQvYOD TRIANGLErDGEHOGgLICOPTERhLSCHREIBER PAUSE SYMBOLxM SYMBOLhET WITH WHITE CROSSvNTAIG",
    "ANA LETTER A-1b2b3bWOeE-1b2b3b4b5b6dHA-1a0b1c2b3b4b5b6b7b8b9dE-1b2b3b4b5b6b7dI-1b2b3b4b5b6b7",
    "dO-1b2b3b4b5b6b7b8dU-1b2b3eI-1b2b3b4dKA-1a0b1c2b3b4b5b6b7b8b9bKEeE-1b2b3b4b5b6dI-1b2b3b4b5b6",
    "b7b8dO-1b2b3bKIeU-1b2b3b4b5b6b7eMA-1b2b3b4b5b6b7dE-1b2bMAeI-1b2b3b4b5b6b7dO-1b2b3b4b5b6dU-1b",
    "2b3b4eN-MU-MO-1b2iA-1b2b3b4b5b6b7b8b9dE-1b2b3b4b5b6bKOeI-1b2b3b4b5b6b7bTEeO-1b2b3b4b5dU-1b2b",
    "3eO-1b2b3dRA-1b2b3b4dE-1b2b3b4dI-1b2b3b4b5b6b7dO-1b2b3b4b5b6dU-1b2b3b4b5b6eSA-1b2b3b4b5b6b7b",
    "8dE-1b2b3b4b5dI-1b2b3b4b5b6dO-1b2b3b4b5b6b7dU-1b2b3b4b5b6b7b8eTA-1b2b3b4dE-1b2b3b4b5b6b7b8b9",
    "dI-1b2b3b4b5b6b7dO-1b2b3b4b5b6bRAeU-1b2b3b4bTOfU-1b2b3b4b5dWA-1b2b3b4b5dE-1b2b3b4dI-1b2b3b4b",
    "5dO-1b2b3b4b5b6b7eYA-1b2b3b4b5bYOeO-1b2b3b4b5b6dU-1b2b3b4uRBbMITIAN CONJUGATE MATRIXyXAGRAM ",
    "FOR ABUNDANCEiFTER COMPLETIONpPPROACHiBEFORE COMPLETIONqITING THROUGHnREAKTHROUGHmCOMING TO ",
    "MEETmNFLICTfTEMPLATIONnDARKENING OF THE LIGHTvECREASEgLIVERANCEjVELOPMENTkIFFICULTY AT THE B",
    "EGINNINGzSPERSIONjURATIONiENTHUSIASMkFELLOWSHIPjOLLOWINGjGATHERING TOGETHERrRACEdEAT POSSESS",
    "IONiWEReREPONDERANCEnTAMINGmHOLDING TOGETHERqINCREASEgFLUENCEhNER TRUTHiOCENCEjLIMITATIONkMO",
    "DESTYfUTH CORNERSnOBSTRUCTIONkPPOSITIONhRESSIONkPEACEeROGRESShUSHING UPWARDoRETREATeURNeVOLU",
    "TIONkSMALL PREPONDERANCEnTAMINGlPLITTING APARToTANDSTILLkTHE ABYSMAL WATERmRMYcOUSING THUNDE",
    "RqCAULDRONhLINGING FIREmREATIVE HEAVENpFAMILYgGENTLE WINDlJOYOUS LAKElKEEPING STILL MOUNTAIN",
    "wMARRYING MAIDENpRECEPTIVE EARTHpWANDERERhELLhREADINGiWAITINGgORK ON THE DECAYEDtYOUTHFUL FO",
    "LLYzbIBISCUSgGH BRIGHTNESS SYMBOLrOCTET PRESETmVOLTAGE SIGNn-HEELED SHOElSPEED TRAINa WITH B",
    "ULLET NOSEzgKING BOOTjNDU TEMPLEkPPOPOTAMUSkRAGANA DIGRAPH YORImITERATION MARKoLETTER AaRCHA",
    "IC WUcYEkBAbEbIbObUcDAbEbIbObUcEbGAbEbIbObUcHAbEbIbObUcIbKAbEbIbObUcMAbEbIbObUcNaAbEbIbObUcO",
    "bPAbEbIbObUcRAbEbIbObUcSAbEbIbMALL AbEbIbKAbEcObTUcUbWAbEbIbOcYAbObUhObUcTAbEbIbObUcUbVUcWAb",
    "EbIbOcYAbObUcZAbEbIbObUjVOICED ITERATION MARKzdSTORIC SITEmOCHOdLEbLOW QUILT SQUARE ORNAMENT",
    "a IN BLACK SQUAREzrMOTHETICiNEY POTeBEEgOKcPbRIZONTAL BARcLACK HEXAGONhOCTAGONnELLIPSISiLINE",
    " EXTENSIONoMALE WITH STROKE SIGNvONE EIGHTH BLOCK-1358e2b3b4b5b6b7sSCAN LINE-1b3b7b9lTAB KEY",
    "eULATIONa SETdWITH JUSTIFICATIONzdRAFFIC LIGHTvSEa FACEeRACINGkSPITALgT BEVERAGEiDOGdPEPPERg",
    "SPRINGSiELdURGLASSa WITH FLOWING SANDySEa BUILDINGaSjWITH GARDENqRYVNIA SIGNlTaJbScUGGING FA",
    "CEkNDRED POINTS SYMBOLtSHED FACEjTcYGIEAePHENa BULLETgWITH DIAERESISp-MINUSgATION POINToODIA",
    "STOLEkSTERESIS SYMBOLrI LOVE YOU HAND SIGNtCE CREAMeUBEeHOCKEY STICK AND PUCKvSKATEiDENTICAL",
    " TOa AND SLANTED PARALLELxWITH DOT ABOVEsFICATION CARDqOGRAPHIC ANNOTATION BOTTOM MARKlEARTH",
    " MARKkFIRST MARKjOUR MARKfTH MARKlHEAVEN MARKlLINKING MARKmMAN MARKhIDDLE MARKlONE MARKiREVE",
    "RSE MARKmSECOND MARKlTHIRD MARKiREE MARKjOP MARKhWO MARKtCLOSING MARKlOMMAfDEPARTING TONE MA",
    "RKrSCRIPTION CHARACTER ABOVE TO BELOWfMIDDLE AND BELOWzFULL SURROUNDnLEFT TO MIDDLE AND RIGH",
    "TqRIGHTnOVERLAIDiSURROUND FROM ABOVEfBELOWfLEFTdOWER LEFTkUPPER LEFTeRIGHTzwENTERING TONE MA",
    "RKsFULL STOPjHALF FILL SPACEpITERATION MARKoLEVEL TONE MARKpNUMBER ZEROlRISING TONE MARKqSPA",
    "CEfTALLY MARK FIVEdOUReONEdTHREEeWOnELEGRAPH LINE FEED SEPARATOR SYMBOLzbSYMBOL FOR APRILeUG",
    "USTgDAY EIGHTaEENhLEVENgFIFTEENfVEdOURaTEENiNINEaTEENiONEdSEVENaTEENiIXaTEENhTENcHIRTEENdYa-",
    "ONEiREEeWELVEdNTYa-EIGHTfFIVEdOUReNINEeONEdSEVENeIXdTHREEeWOiOgECEMBERiFEBRUARYiHOUR EIGHTaE",
    "ENhLEVENgFIFTEENfVEdOURaTEENiNINEaTEENiONEdSEVENaTEENiIXaTEENhTENcHIRTEENgREEeWELVEdNTYa-FOU",
    "ReONEdTHREEeWOiOdZEROjJANUARYgULYcNEeMARCHdYdNOVEMBERiOCTOBERhSEPTEMBERzfVARIATION INDICATOR",
    "zfMAGE OFa OR APPROXIMATELY EQUAL TOzhPaERIAL ARAMAIC LETTER ALEPHeYINeBETHeDALETHgGIMELfHEa",
    "THeKAPHeLAMEDHgMEMdNUNdPEcQOPHeRESHeSADHEdMEKHfHINeTAWcETHeWAWdYODHeZAYINmNUMBER ONEa HUNDRE",
    "DhTHOUSANDmTENa THOUSANDlHREEeWENTYeOkSECTION SIGNzdNBOX TRAYiCOMING ENVELOPEmPLETE INFINITY",
    "qREASE FONT SIZE SYMBOLrS AShMENThDaEXa POINTING AT THE VIEWERzIAN RUPEE SIGNnC SIYAQ ALTERN",
    "ATE LAKH MARKtFRACTION ONE HALFeQUARTERlTHREE QUARTERSxLAKH MARKjNUMBER ALTERNATE ONEdTEN TH",
    "OUSANDlWOnEIGHTa HUNDREDhTHOUSANDjYa THOUSANDpFIFTYa THOUSANDmVEa HUNDREDhTHOUSANDmORTYa THO",
    "USANDmURa HUNDREDhTHOUSANDnKARORaANhLAKHaANgNINEa HUNDREDhTHOUSANDjTYa THOUSANDpONEa HUNDRED",
    "hTHOUSANDmPREFIXED EIGHTfFIVEdOUReNINEeONEdSEVENeIXdTHREEeWOmSEVENa HUNDREDhTHOUSANDjTYa THO",
    "USANDpIXa HUNDREDhTHOUSANDjTYa THOUSANDoTENa THOUSANDlHIRTYa THOUSANDnREEa HUNDREDhTHOUSANDn",
    "WENTYa THOUSANDnOa HUNDREDhTHOUSANDtPLACEHOLDERlRUPEE MARKuFINITYa NEGATED WITH VERTICAL BAR",
    "zgORMATION DESK PERSONlSEPARATOR FOUReONEdTHREEeWOmOURCEqHIBIT ARABIC FORM SHAPINGtSYMMETRIC",
    " SWAPPINGyPUT SYMBOL FOR LATIN CAPITAL LETTERSpLETTERShSMALL LETTERStNUMBERShSYMBOLSwSCRIPTI",
    "ONAL PAHLAVI LETTER ALEPHfBETHeDALETHgGIMELfHEaTHeKAPHeLAMEDHgMEM-QOPHiNUNdPEcSADHEdMEKHfHIN",
    "eTAWcETHeWAW-AYIN-RESHnYODHeZAYINmNUMBER FOUReONEa HUNDREDhTHOUSANDmTENcHREEeWENTYeOqRTHIAN ",
    "LETTER ALEPHeYINeBETHeDALETHgGIMELfHEaTHeKAPHeLAMEDHgMEMdNUNdPEcQOPHeRESHeSADHEdMEKHfHINeTAW",
    "cETHeWAWdYODHeZAYINmNUMBER FOUReONEa HUNDREDhTHOUSANDmTENcHREEeWENTYeOzfERTION SYMBOLoTEGRAL",
    "a AROUND A POINT OPERATORwVERAGE WITH SLASHsEXTENSIONjWITH DOUBLE STROKEnINTERSECTIONmLEFTWA",
    "RDS ARROW WITH HOOKzOVERBARhTIMES SIGNkUNDERBARgIONpRCALATEgIOR PRODUCTlLINEAR ANNOTATION AN",
    "CHORgSEPARATORjTERMINATORzcOCKED FEMALE AND MALE SIGNzcROBANGgSECTIONa ABOVE BAR ABOVE UNION",
    "pUNIONlBESIDE AND JOINED WITH INTERSECTIONzkWITH DOTdLOGICAL ANDlOVERBARxVERSE BULLETgCHECK ",
    "MARKfER BOARD FILLsDOWNWARDS ARROW WITH TIP LEFTWARDSzjMEDIUM SHADEmWHITE CIRCLEpTED EXCLAMA",
    "TION MARKqINTERROBANGlLAZY SfOW KAVYKAa WITH KAVYKA ABOVEzdOHM SIGNiPENTAGRAMjQUESTION MARKn",
    "UNDERTIEoISIBLE PLUSeSEPARATORjTIMESoZAKAYA LANTERNpJACK-O-LANTERNmPANESE BANK SYMBOLlCASTLE",
    "gDOLLSfGOBLINgINDUSTRIAL STANDARD SYMBOLzbOGREePOST OFFICElSYMBOL FOR BEGINNERzbRbVANESE CON",
    "SONANT SIGN CAKRAfKERETfPENGKALwDIGIT EIGHTfFIVEdOUReNINEeONEdSEVENeIXdTHREEeWOdZEROkLEFT RE",
    "RENGGANmTTER AaIcBAa MURDAiCAa MURDAiDAa MAHAPRANAlDAa MAHAPRANAnEbGAa MURDAiHAcIa KAWIfIcJA",
    "a MAHAPRANAmKAa MURDAfSASAKiLAcMAcNAa MURDAhGAa LELETa RASWADIqYAa MURDAjObPAa CEREKfMURDAiR",
    "Aa AGUNGiSAa MAHAPRANAiURDAiTAa MURDAhTAa MAHAPRANAnUbWAcYAjPADA ADEGa ADEGiNDAPfISEN-ISENjL",
    "INGSAfUHURdNGSIgMADYAfPANGKATgISELEHhTIRTA TUMETESnWINDUiNGKONdRANGKEPlRIGHT RERENGGANpSIGN ",
    "CECAKa TELUkLAYARfPANYANGGAjWIGNYANmTURNED PADA PISELEHtVOWEL SIGN DIRGA MUREkPEPETfSUKUa ME",
    "NDUTlTALINGeRUNGfOLONGgWULUa MELIKzeEANSeIGSAW PUZZLE PIECEsOINcYSTICKhUGGLINGgNOcPITERhKAAB",
    "AdITHI ABBREVIATION SIGNrDANDAeOUBLE DANDAfSECTION MARKtENUMERATION SIGNqLETTER AaAbIbUcBAbH",
    "AdCAbHAdDAbDAbDHAdHAdHAdEbGAbHAdHAcIaIcJAbHAdKAbHAdLAcMAcNAbGAcNAcYAdObPAbHAdRAbHAdSAbHAcSAd",
    "TAbHAcTAbHAeUaUcVAcYAjNUMBER SIGNa ABOVErSECTION MARKlIGN ANUSVARAiCANDRABINDUlNUKTAfVIRAMAe",
    "SARGAmVOWEL SIGN AAbIbUcEbIaIcObUaUcVOCALIC RzNGAROOeXI RADICAL AGAINeNDcRRIVEdOWeXEdBADGERe",
    "MBOOfEANdIGbRDcTTERfLACKdOODdUEdOATcDYcLT OF CLOTHlNEcWcRANCHeISTLEfUSHfCARTcULDRONgVEdHILDe",
    "ITYdLANbWcIFFdOTHESgOLORdMPAREfRPSEeVERdWdDEATHdERdIPPEReSHbTINGUISHjVINATIONjO NOTeGbORcTaT",
    "ED CLIFFfTENTjUBLE XgWN BOXhRAGONeUMcYdEARaTHdTcIGHTeMBROIDERYjNCLOSUREhTEReVENaINGgYEdFACEc",
    "NGcTHERfEATHERgIELDdGHTdREcSHdLUTEdYcOOTdRAGRANTgOGdURdGATEdHOSTeOa SLOWLYhLDdRAINcSSfHAIRcL",
    "BERDeF TREE TRUNKnNDdEADbRTdMPdIDING ENCLOSUREpOOKcRNbSEfICEcNCHcSECTgJADEcRdKNIFEfLACKcMEdE",
    "AFbTHERfEKcGSdIDbFEcNEdONGa STRIDElMANcEATcLONeILLETeNISTERhOONcRNINGeTAReUNDbTAINfTHfNETcOS",
    "EcTdOLDcNEaSELFgPEN BOXgPOSEgPIGcLOWdOWEReRIVATEfOFOUNDiRAINcPbTcEDcICEcGHT OPEN BOXmVEReOOF",
    "dUNdSACRIFICIAL WINEoLTcYcCHOLARfRIPTfEALcCONDeEbLFdHEEPcLLdOOTcRT TAILED BIRDkHREADlICKNESS",
    "gLKdKINdLASHcVEdICEeMALLeNOUTeOUNDePEARcECHeIRITeOONdROUTfQUAREfTANDdEAMcPcONEcPaPINGhUNcWEE",
    "TfTABLEdLLcNNED LEATHERnENcIGERdLEdONGUEeOTHeRACKdEEcIPODfURBANdTLEfWOa HANDSjUSEdVALLEYfILL",
    "AGEhWALKa ENCLOSUREmTEReEAPONeSTdHEATdITEeINDbEdOMANdRKdRAPcONGfYELLOWsNADA AI LENGTH MARKoD",
    "IGIT EIGHTfFIVEdOUReNINEeONEdSEVENeIXdTHREEeWOdZEROkLENGTH MARKjTTER AaAbIbUcBAbHAdCAbHAdDAb",
    "DAbHAdHAdEaEcFAcGAbHAdHAcIaIcJAbHAdKAbHAdLAbLAbLAeMAcNAaKAARA POLLUmGAcNAcYAdOaOcPAbHAdRAbRA",
    "dSAbHAcSAdTAbHAcTAbHAeUaUcVAbOCALIC LaLcRaRkYAjSIGN ANUSVARAhVAGRAHAiCANDRABINDUlJIHVAMULIYA",
    "lNUKTAfSIDDHAMgPACING CANDRABINDUtUPADHMANIYAlVIRAMAeSARGAmVOWEL SIGN AAbIbUcEaEcIaIcOaOcUaU",
    "cVOCALIC LaLcRaRzcTAKANA DIGRAPH KOTOmITERATION MARKoLETTER AaRCHAIC EbWUcYEbIkBAbEbIbObUcDA",
    "bEbIbObUcEbGAbEbIbObUcHAbEbIbObUcIbKAbEbIbObUcMAbEbIaNNAN NASALIZED TONE-1b2b3b4b5b7b8qTONE-",
    "2b3b4b5b7b8mObUcNaAbEbIbObUcObPAbEbIbObUcRAbEbIbObUcSAbEbIbMALL AbEbHAbEbIbObUcIbKAbEbUcMUcN",
    "aUcObRAbEbIbObUcSIbUcTObUcUbWAbEbIbOcYAbObUhObUcTAbEbIbObUcUbVAbEbIbObUcWAbEbIbOcYAbObUcZAbE",
    "bIbObUjMIDDLE DOTkVOICED ITERATION MARKw-HIRAGANA DOUBLE HYPHENnPROLONGED SOUND MARKuSEMI-VO",
    "ICED SOUND MARKwVOICED SOUND MARKziYAH LI DIGIT EIGHTfFIVEdOUReNINEeONEdSEVENeIXdTHREEeWOdZE",
    "ROkLETTER AbBAcCAcDAcGAcHAbTAdIbKAbHAdLAcMAcNAbGAcYAdOEbOcPAbHAdRAcSAbHAdTAbHAdVAcWAcYAcZAjS",
    "IGN CWIdSHYAjTONE CALYAa PLOPHUmPLOPHUlVOWEL EaEcObUaEqELVIN SIGNjYaBOARDa AND MOUSEpCAP TEN",
    "jHAROSHTHI DIGIT FOUReONEdTHREEeWOjFRACTION ONE HALFrLETTER AbBAbHAdCAbHAdDAbDAbHAdHAdGAbHAd",
    "HAcJAcKAbHAcKAdLAcMAcNAbNAcYAdPAbHAdRAcSAbHAcSAdTAbHAcTAbHAcTAbHAfVAbHAdYAcZAjNUMBER ONE HUN",
    "DREDhTHOUSANDmTENcWENTYnPUNCTUATION CIRCLEfRESCENT BARmDANDAeOTbUBLE DANDAmLINESeOTUSfMANGAL",
    "AMiSMALL CIRCLEySIGN ANUSVARAiBAR ABOVEjCAUDAfDOT BELOWhUBLE RING BELOWrVISARGAmVIRAMAfOWEL ",
    "LENGTH MARKlSIGN EbIbObUbVOCALIC RzeITAN SMALL SCRIPT CHARACTER-18B00b1b2b3b4b5b6b7b8b9bAbBb",
    "CbDbEbFc10b1b2b3b4b5b6b7b8b9bAbBbCbDbEbFc20b1b2b3b4b5b6b7b8b9bAbBbCbDbEbFc30b1b2b3b4b5b6b7b8",
    "b9bAbBbCbDbEbFc40b1b2b3b4b5b6b7b8b9bAbBbCbDbEbFc50b1b2b3b4b5b6b7b8b9bAbBbCbDbEbFc60b1b2b3b4b",
    "5b6b7b8b9bAbBbCbDbEbFc70b1b2b3b4b5b6b7b8b9bAbBbCbDbEbFc80b1b2b3b4b5b6b7b8b9bAbBbCbDbEbFc90b1",
    "b2b3b4b5b6b7b8b9bAbBbCbDbEbFcA0b1b2b3b4b5b6b7b8b9bAbBbCbDbEbFcB0b1b2b3b4b5b6b7b8b9bAbBbCbDbE",
    "bFcC0b1b2b3b4b5b6b7b8b9bAbBbCbDbEbFcD0b1b2b3b4b5b6b7b8b9bAbBbCbDbEbFcE0b1b2b3b4b5b6b7b8b9bAb",
    "BbCbDbEbFcF0b1b2b3b4b5b6b7b8b9bAbBbCbDbEbFdC00b1b2b3b4b5b6b7b8b9bAbBbCbDbEbFc10b1b2b3b4b5b6b",
    "7b8b9bAbBbCbDbEbFc20b1b2b3b4b5b6b7b8b9bAbBbCbDbEbFc30b1b2b3b4b5b6b7b8b9bAbBbCbDbEbFc40b1b2b3",
    "b4b5b6b7b8b9bAbBbCbDbEbFc50b1b2b3b4b5b6b7b8b9bAbBbCbDbEbFc60b1b2b3b4b5b6b7b8b9bAbBbCbDbEbFc7",
    "0b1b2b3b4b5b6b7b8b9bAbBbCbDbEbFc80b1b2b3b4b5b6b7b8b9bAbBbCbDbEbFc90b1b2b3b4b5b6b7b8b9bAbBbCb",
    "DbEbFcA0b1b2b3b4b5b6b7b8b9bAbBbCbDbEbFcB0b1b2b3b4b5b6b7b8b9bAbBbCbDbEbFcC0b1b2b3b4b5b6b7b8b9",
    "bAbBbCbDbEbFcD0b1b2b3b4b5pFILLERyMER CURRENCY SYMBOL RIELuDIGIT EIGHTfFIVEdOUReNINEeONEdSEVE",
    "NeIXdTHREEeWOdZEROkINDEPENDENT VOWEL LYaYdQAAbIbQbUcEbIaIcOO TYPE ONEdTWOlUaKbUaVeRYaYvLETTE",
    "R BAcCAbHAbOcOcDAbOcHAcKAbHAbOcOcLAbOcMOcNGOcNOcObYOdPHAbOcOcQAcROcSAbHAcSOdTAbHAbOcObTHAbOe",
    "VOcYOjSIGN AHSDAeTTHACANhVAKRAHASANYAnBANTOCeRIYOOSANiTHAMASATjEYYALgCAMNUC PII KUUHoOENGfKA",
    "KABATgHANdOOMUUThLEK TOOhMUUSIKATOANlNIKAHIThPHNAEK MUANlREAHMUKgOBATfSAMYOK SANNYAnTOANDAKH",
    "IATkRIISAPhVIRIAMgYUUKALEAPINTUrYMBOL BEI KOETeROCgUON KOETeROCiDAP KOETeROCe-BEI KOETeROCgU",
    "ON KOETeROCiMUOY KOETeROCiPII KOETeROCgRAM KOETeROCmLEK ATTAK BEIcUONeMUOYePIIcRAMa-BEIcUONe",
    "MUOYePIIiSONnMUOY KOETeROCiPATHAMASATjII KOETeROCgRAM KOETeROCe-BEI KOETeROCgUON KOETeROCiMU",
    "OY KOETeROCiPII KOETeROCmTUTEYASATqVOWEL INHERENT AAbQlSIGN AAbEbIbUcEbIaEbIcOEbOcUaAbUcYaAb",
    "YrOJKI ABBREVIATION SIGNrDANDAeOUBLE DANDAfSECTION MARKtLETTER AaAbIbUcBAbBAcHAdCAbHAdDAbDAb",
    "DAcHAdHAdEbGAbGAcHAdHAcIbJAbJAdKAbHAdLAbLAdMAcNAbGAcNAcYAdObPAbHAdRAcSAcTAbHAcTAbHAeUbVAcYAj",
    "SECTION MARKlIGN ANUSVARAiNUKTAfSHADDAfUKUNfVIRAMAlVOWEL SIGN AAbIbUcEbIaIcObUmWORD SEPARATO",
    "RtUDAWADI DIGIT EIGHTfFIVEdOUReNINEeONEdSEVENeIXdTHREEeWOdZEROkLETTER AaAbIbUcBAbBAcHAdCAbHA",
    "dDAbDAbDAcHAdHAdEbGAbGAcHAdHAcIaIcJAbHAcJAdKAbHAdLAcMAcNAbGAcNAcYAdObPAbHAdRAbRAdSAbHAdTAbHA",
    "cTAbHAeUaUcVAcYAjSIGN ANUSVARAiNUKTAfVIRAMAlVOWEL SIGN AAbIbUcEbIaIcObUaUwIMONOeP SIGNgSSa M",
    "ARKfING CAT FACE WITH CLOSED EYESzFACEa WITH CLOSED EYESlSMILING EYESzdTEcWIFRUITiNEELING PE",
    "RSONnOTdOALAdREAN STANDARD SYMBOLvRONOSgL B BAR SYMBOLnAB COATfELdCROSSE STICK AND BALLvDDER",
    "dY BEETLEjNGUAGE TAGkO CANCELLATION MARKrDIGIT EIGHTfFIVEdOUReNINEeONEdSEVENeIXdTHREEeWOdZER",
    "OkELLIPSISiHO MOcNOfKO LAfLETTER BOcCOcDOcFO FAYcONdSUNGeTAMgHO SUNGeTAMgKHMU GOcNYOgO SUNGe",
    "TAMgOcLOa LINGdOOThMOcNGOcObYOdObPALI BHAdCHAdDDAbHAdHAdGHAdJHAdLLAdNNAcYAdTTAbHAiHO SUNGeTA",
    "MgOcROcSANSKRIT SHAcSAlO SUNGeTAMgTHO SUNGeTAMgOcWOcYOjNIGGAHITAjSEMIVOWEL SIGN LOcNYOrIGN P",
    "ALI VIRAMAqTONE MAI CATAWAgEKcTHOcIlVOWEL SIGN AaAbIbMbYcEaIcIaIcMAI KANcONhObUaUcYaYpRGE BL",
    "UE CIRCLEgDIAMONDhSQUAREkROWN CIRCLEgSQUAREmCIRCLEgDOWN TACKjGREEN CIRCLEgSQUAREmLEFT TRIANG",
    "LE OPERATORwONE DOT OVER TWO DOTS PUNCTUATIONzeRING OVER TWO RINGS PUNCTUATIONzjRANGE CIRCLE",
    "gDIAMONDhSQUAREnPURPLE CIRCLEgSQUAREnRED CIRCLEgSQUAREkTRIPLE VERTICAL BAR OPERATORzcWO DOTS",
    " OVER ONE DOT PUNCTUATIONzeRINGS OVER ONE RING PUNCTUATIONzkUP TACKhYELLOW CIRCLEgSQUAREoR T",
    "HANa OR EQUAL TOuI SIGNhST QUARTER MOONa SYMBOLgWITH FACEzTIN CAPITAL LETTER Aa WITH ACUTEfB",
    "REVEa AND ACUTEfDOT BELOWjGRAVEfHOOK ABOVEkTILDEpCARONeIRCUMFLEXa AND ACUTEfDOT BELOWjGRAVEf",
    "HOOK ABOVEkTILDEuDIAERESISa AND MACRONtOT ABOVEa AND MACRONqBELOWhUBLE GRAVEmGRAVEfHOOK ABOV",
    "EkINVERTED BREVEoMACRONgOGONEKgRING ABOVEa AND ACUTEpBELOWkSTROKEgTILDElAbEa WITH ACUTEfMACR",
    "ONnFRICAN DiLPHAeNGLICANA WkObUbVa WITH HORIZONTAL BARvYcBa WITH DOT ABOVEfBELOWjFLOURISHiHO",
    "OKeLINE BELOWkSTROKEgTOPBARmETAdROKEN LiCa WITH ACUTEfBARdCARONeEDILLAa AND ACUTEqIRCUMFLEXk",
    "DOT ABOVEjHOOKePALATAL HOOKmSTROKEmHIcLOSED INSULAR GpONcUATRILLOa WITH COMMAuDa WITH CARONe",
    "EDILLAgIRCUMFLEX BELOWqDOT ABOVEfBELOWjHOOKeLINE BELOWkSHORT STROKE OVERLAYtMALL LETTER Za W",
    "ITH CARONyTROKEgTOPBARmZa WITH CARONnEa WITH ACUTEfBREVEfCARONeEDILLAa AND BREVEqIRCUMFLEXa ",
    "AND ACUTEfDOT BELOWjGRAVEfHOOK ABOVEkTILDEjBELOWqDIAERESISiOT ABOVEfBELOWhUBLE GRAVEmGRAVEfH",
    "OOK ABOVEkINVERTED BREVEoMACRONa AND ACUTEfGRAVEqOGONEKgSTROKEgTILDEa BELOWrGYPTOLOGICAL AIN",
    "cLEFrNGcSHcTaHcZHa REVERSEDiWITH CARONoFa WITH DOT ABOVEjHOOKeSTROKEnGa WITH ACUTEfBREVEfCAR",
    "ONeEDILLAgIRCUMFLEXkDOT ABOVEjHOOKeMACRONgOBLIQUE STROKEoSTROKEmAMMAeHAcLOTTAL AbIbSTOPeUjHa",
    " WITH BREVE BELOWlCARONeEDILLAgIRCUMFLEXkDESCENDERiIAERESISiOT ABOVEfBELOWjHOOKeSTROKEmALF H",
    "fENGdWAIRfIa WITH ACUTEfBREVEfCARONeIRCUMFLEXkDIAERESISa AND ACUTEsOT ABOVEfBELOWhUBLE GRAVE",
    "mGRAVEfHOOK ABOVEkINVERTED BREVEoMACRONgOGONEKgSTROKEgTILDEa BELOWrNSULAR DbFbGbRbSbTiOTAdSc",
    "Ja WITH CIRCUMFLEXjROSSED-TAILmSTROKEnKa WITH ACUTEfCARONeEDILLAhDESCENDERiIAGONAL STROKEoOT",
    " BELOWjHOOKeLINE BELOWkOBLIQUE STROKEoSTROKEa AND DIAGONAL STROKEziLa WITH ACUTEfBARcELTeCAR",
    "ONeEDILLAgIRCUMFLEX BELOWqDOT BELOWa AND MACRONsUBLE BARkHIGH STROKElLINE BELOWkMIDDLE DOTdT",
    "ILDEmSMALL LETTER JnTROKEmJcMa WITH ACUTEfDOT ABOVEfBELOWjHOOKkIDDLE SCOTS Si-WELSH LLcVoNa ",
    "WITH ACUTEfCARONeEDILLAgIRCUMFLEX BELOWqDESCENDERiOT ABOVEfBELOWjGRAVEfLEFT HOOKiINE BELOWjO",
    "NG RIGHT LEGoOBLIQUE STROKEoSMALL LETTER JoTILDElJcOa WITH ACUTEfBREVEfCARONeIRCUMFLEXa AND ",
    "ACUTEfDOT BELOWjGRAVEfHOOK ABOVEkTILDEuDIAERESISa AND MACRONtOT ABOVEa AND MACRONqBELOWhUBLE",
    " ACUTEfGRAVEmGRAVEfHOOK ABOVEiRNa AND ACUTEfDOT BELOWjGRAVEfHOOK ABOVEkTILDEoINVERTED BREVEo",
    "LONG STROKE OVERLAYrOPeMACRONa AND ACUTEfGRAVEpIDDLE TILDEmOGONEKa AND MACRONrSTROKEa AND AC",
    "UTEqTILDEa AND ACUTEfDIAERESISjMACRONwIbLD POLISH OlMEGAeObPEN EbOfUcPa WITH ACUTEfDOT ABOVE",
    "jFLOURISHiHOOKeSQUIRREL TAILmTROKEa THROUGH DESCENDERzgQa WITH DIAGONAL STROKEpSTROKE THROUG",
    "H DESCENDERzgRa ROTUNDAhWITH ACUTEfCARONeEDILLAhDOT ABOVEfBELOWa AND MACRONsUBLE GRAVEmINVER",
    "TED BREVEoLINE BELOWkOBLIQUE STROKEoSTROKEgTAILkEVERSED C WITH DOTkEbHALF HgOPEN EoUM ROTUND",
    "AlSa WITH ACUTEa AND DOT ABOVEtCARONa AND DOT ABOVEsEDILLAgIRCUMFLEXjOMMA BELOWlDOT ABOVEfBE",
    "LOWa AND DOT ABOVExHOOKeOBLIQUE STROKEoSHORT STROKE OVERLAYtWASH TAILqALTILLOhCHWAdRIPT GhHA",
    "RP SgIGMOID SiMALL CAPITAL IjQ WITH HOOK TAILwTa WITH CARONeEDILLAgIRCUMFLEX BELOWpOMMA BELO",
    "WlDIAGONAL STROKEoOT ABOVEfBELOWjHOOKeLINE BELOWkRETROFLEX HOOKoSTROKEmHORNa WITH STROKEa TH",
    "ROUGH DESCENDERzjONE FIVEeSIXdTWOhRESILLOhURNED AaLPHAfHbINSULAR GjKbLbMbTbVhZcUa BARdWITH A",
    "CUTEfBREVEfCARONeIRCUMFLEXa BELOWqDIAERESISa AND ACUTEfCARONfGRAVEfMACRONkBELOWoOT BELOWhUBL",
    "E ACUTEfGRAVEmGRAVEfHOOK ABOVEiRNa AND ACUTEfDOT BELOWjGRAVEfHOOK ABOVEkTILDEoINVERTED BREVE",
    "oMACRONa AND DIAERESISuOGONEKgRING ABOVEkSTROKEgTILDEa AND ACUTEjBELOWrPSILONhVa WITH DIAGON",
    "AL STROKEoOT BELOWjHOOKeTILDElENDdISIGOTHIC ZlOLAPUK AEcOEcUEjYcWa WITH ACUTEfCIRCUMFLEXkDIA",
    "ERESISiOT ABOVEfBELOWjGRAVEfHOOKkYNNeXa WITH DIAERESISiOT ABOVEqYa WITH ACUTEfCIRCUMFLEXkDIA",
    "ERESISiOT ABOVEfBELOWjGRAVEfHOOKa ABOVEkLOOPeMACRONgSTROKEgTILDElOGHeZa WITH ACUTEfCARONeIRC",
    "UMFLEXkDESCENDERiOT ABOVEfBELOWjHOOKeLINE BELOWkPALATAL HOOKmSTROKEfWASH TAILxIGATURE IJcOEs",
    "ROSSfEPIGRAPHIC LETTER ARCHAIC MjI LONGAgNVERTED MkREVERSED FbPkSIDEWAYS IzdLETTER AINcLVEOL",
    "AR CLICKoBIDENTAL PERCUSSIVErLABIAL CLICKfPERCUSSIVEtDENTAL CLICKmGLOTTAL STOPa WITH STROKEy",
    "INVERTED GLOTTAL STOPa WITH CURLeSTROKEziLATERAL CLICKnPHARYNGEAL VOICED FRICATIVEzcRETROFLE",
    "X CLICKa WITH RETROFLEX HOOKziVERSED ESH LOOPiGLOTTAL STOP WITH STROKEziSINOLOGICAL DOToMALL",
    " CAPITAL AaEcBaARRED BiCbDbEaTHcZHdFbGa WITH HOOKlHbIaNVERTED RkJbKbLa WITH BELTeSTROKEnMbNb",
    "OaEbPEN OfUcPbQbRa WITH RIGHT LEGpEVERSED NbRjUMdSbTaURNED EbGbKbMbRiUbVbWbYbZoTRETCHED Ca W",
    "ITH CURLvTWO WITH STROKEpVOICED LARYNGEAL SPIRANTyWYNNeYRjSMALL CAPITAL LETTER I WITH STROKE",
    "nU WITH STROKEzdLETTER Aa REVERSED-SCHWAoWITH ACUTEfBREVEa AND ACUTEfDOT BELOWjGRAVEfHOOK AB",
    "OVEkTILDEpCARONeIRCUMFLEXa AND ACUTEfDOT BELOWjGRAVEfHOOK ABOVEkTILDEuDIAERESISa AND MACRONt",
    "OT ABOVEa AND MACRONqBELOWhUBLE GRAVEmGRAVEfHOOK ABOVEkINVERTED BREVEoMACRONgOGONEKgRETROFLE",
    "X HOOKnIGHT HALF RINGnNG ABOVEa AND ACUTEpBELOWkSTROKEgTILDElAbEa WITH ACUTEfMACRONnLPHAa WI",
    "TH RETROFLEX HOOKyNGLICANA WkObUbVa WITH HORIZONTAL BARvYcBa WITH DOT ABOVEfBELOWjFLOURISHiH",
    "OOKeLINE BELOWkMIDDLE TILDEmPALATAL HOOKmSTROKEgTOPBARmARRED ALPHAfEbOgSELINE ESHlETAdLACKLE",
    "TTER EbOa WITH STROKEyOTTOM HALF OmROKEN LiCa WITH ACUTEfBARdCARONeEDILLAa AND ACUTEqIRCUMFL",
    "EXjURLeDOT ABOVEjHOOKePALATAL HOOKmRETROFLEX HOOKoSTROKEmHIa WITH LOW LEFT SERIFkRIGHT RINGw",
    "LOSED INSULAR GjOMEGAePEN EgREVERSED OPEN EvONcUATRILLOa WITH COMMAuDa WITH CARONeEDILLAgIRC",
    "UMFLEX BELOWpURLeDOT ABOVEfBELOWjHOOKa AND TAILnLINE BELOWkMIDDLE TILDEmPALATAL HOOKmSHORT S",
    "TROKE OVERLAYtTROKEgTAILdOPBARmB DIGRAPHjELTAdZH DIGRAPHa WITH PALATAL HOOKmRETROFLEX HOOKzg",
    "OTLESS IbJa WITH STROKEa AND HOOKzdUBLE Ra WITH CROSSED-TAILtTHORNfWYNNkUMcZa DIGRAPHa WITH ",
    "CURLeRETROFLEX HOOKzcWITH CARONnEa WITH ACUTEfBREVEfCARONeEDILLAa AND BREVEqIRCUMFLEXa AND A",
    "CUTEfDOT BELOWjGRAVEfHOOK ABOVEkTILDEjBELOWqDIAERESISiOT ABOVEfBELOWhUBLE GRAVEmFLOURISHiGRA",
    "VEfHOOK ABOVEkINVERTED BREVEoMACRONa AND ACUTEfGRAVEqNOTCHfOGONEKgRETROFLEX HOOKoSTROKEgTILD",
    "Ea BELOWrGYPTOLOGICAL AINcLEFrNGa WITH CROSSED-TAILmPALATAL HOOKuSHa WITH CURLeDOUBLE BARa A",
    "ND CURLtPALATAL HOOKmRETROFLEX HOOKwTaHcZHa REVERSEDiWITH CARONeURLePALATAL HOOKmRETROFLEX H",
    "OOKoTAILnFa WITH DOT ABOVEjHOOKeMIDDLE TILDEmPALATAL HOOKmSTROKEmENG DIGRAPHa WITH TRILLxGa ",
    "WITH ACUTEfBREVEfCARONeEDILLAgIRCUMFLEXkDOT ABOVEjHOOKeMACRONgOBLIQUE STROKEoPALATAL HOOKmST",
    "ROKEmAMMAeHAcLOTTAL AbIbSTOPeUjHa WITH BREVE BELOWlCARONeEDILLAgIRCUMFLEXkDESCENDERiIAERESIS",
    "iOT ABOVEfBELOWjHOOKeLINE BELOWkPALATAL HOOKmSTROKEmALF HfENGa WITH HOOKnVcIa WITH ACUTEfBRE",
    "VEfCARONeIRCUMFLEXkDIAERESISa AND ACUTEsOT BELOWhUBLE GRAVEmGRAVEfHOOK ABOVEkINVERTED BREVEo",
    "MACRONgOGONEKgRETROFLEX HOOKoSTROKEa AND RETROFLEX HOOKzTILDEa BELOWrNSULAR DbFbGbRbSbThVERT",
    "ED ALPHAfOEkOTAa WITH STROKEnIFIED EjScJa WITH CARONeIRCUMFLEXjROSSED-TAILmSTROKEnKa WITH AC",
    "UTEfCARONeEDILLAhDESCENDERiIAGONAL STROKEoOT BELOWjHOOKeLINE BELOWkOBLIQUE STROKEoPALATAL HO",
    "OKmSTROKEa AND DIAGONAL STROKEzhRAdLa WITH ACUTEfBARcELTa AND PALATAL HOOKvCARONeEDILLAgIRCU",
    "MFLEX BELOWpURLeDOT BELOWa AND MACRONsUBLE BARdMIDDLE TILDEtFISHHOOKiHIGH STROKElINVERTED LA",
    "ZY SpLINE BELOWkMIDDLE DOTdRINGeTILDEmPALATAL HOOKmRETROFLEX HOOKa AND BELTxSTROKEmAMBDA WIT",
    "H STROKErENIS FfZHa WITH RETROFLEX HOOKxJbONG Sa WITH DIAGONAL STROKEoOT ABOVEjHIGH STROKEwS",
    " DIGRAPHjUMcZ DIGRAPHkMa WITH ACUTEfCROSSED-TAILmDOT ABOVEfBELOWjHOOKeMIDDLE TILDEmPALATAL H",
    "OOKsIDDLE SCOTS Si-WELSH LLcVnUMdNa PRECEDED BY APOSTROPHEwWITH ACUTEfCARONeEDILLAgIRCUMFLEX",
    " BELOWpROSSED-TAILlURLeDESCENDERiOT ABOVEfBELOWjGRAVEfLEFT HOOKiINE BELOWjONG RIGHT LEGoMIDD",
    "LE TILDEmOBLIQUE STROKEoPALATAL HOOKmRETROFLEX HOOKoTILDElJbUMdOa WITH ACUTEfBREVEfCARONeIRC",
    "UMFLEXa AND ACUTEfDOT BELOWjGRAVEfHOOK ABOVEkTILDEuDIAERESISa AND MACRONtOT ABOVEa AND MACRO",
    "NqBELOWhUBLE ACUTEfGRAVEmGRAVEfHOOK ABOVEiRNa AND ACUTEfDOT BELOWjGRAVEfHOOK ABOVEkTILDEoINV",
    "ERTED BREVEoLONG STROKE OVERLAYrOPcW RING INSIDEpMACRONa AND ACUTEfGRAVEqOGONEKa AND MACRONr",
    "RETROFLEX HOOKoSTROKEa AND ACUTEqTILDEa AND ACUTEfDIAERESISjMACRONwIbLD POLISH OlMEGAeObPEN ",
    "Ea WITH RETROFLEX HOOKvOa WITH RETROFLEX HOOKoSTROKEmEgUcPa WITH ACUTEfDOT ABOVEjFLOURISHiHO",
    "OKeMIDDLE TILDEmPALATAL HOOKmSQUIRREL TAILmTROKEa THROUGH DESCENDERzfHIdQa WITH DIAGONAL STR",
    "OKEpHOOKa TAILjSTROKE THROUGH DESCENDERzfP DIGRAPHkRa ROTUNDAhWITH ACUTEfCARONeEDILLAgROSSED",
    "-TAILmDOT ABOVEfBELOWa AND MACRONsUBLE GRAVEmFISHHOOKa AND MIDDLE TILDEmPALATAL HOOKzINVERTE",
    "D BREVEoLINE BELOWjONG LEGiMIDDLE TILDEmOBLIQUE STROKEoPALATAL HOOKmSTROKEgTAILfOUT HANDLEpA",
    "MS HORNiEVERSED Ca WITH DOTkEaNGdHALF HgKbOPEN Ea WITH HOOKeRETROFLEX HOOKzbR WITH FISHHOOKp",
    "SCRIPT GqUMa ROTUNDAlSa WITH ACUTEa AND DOT ABOVEtCARONa AND DOT ABOVEsEDILLAgIRCUMFLEXjOMMA",
    " BELOWkURLeDOT ABOVEfBELOWa AND DOT ABOVExHOOKeMIDDLE TILDEmOBLIQUE STROKEoPALATAL HOOKmSHOR",
    "T STROKE OVERLAYtWASH TAILqAKHA YAThLTILLOhCHWAa WITH HOOKeRETROFLEX HOOKxRIPT Ga WITH CROSS",
    "ED-TAILtRa WITH RINGrHARP SgIDEWAYS DIAERESIZED UnOa WITH STROKEmPEN OgTURNED MiUiGMOID SiQU",
    "AT REVERSED ESHrTIRRUP RjTa WITH CARONeEDILLAgIRCUMFLEX BELOWpOMMA BELOWkURLeDIAERESISgGONAL",
    " STROKEoOT ABOVEfBELOWjHOOKa AND RETROFLEX HOOKxLINE BELOWkMIDDLE TILDEmPALATAL HOOKmRETROFL",
    "EX HOOKoSTROKEmAILLESS PHIlC DIGRAPH WITH CURLtESH DIGRAPHa WITH PALATAL HOOKmRETROFLEX HOOK",
    "zgH WITH STRIKETHROUGHtORNa WITH STROKEa THROUGH DESCENDERzjONE FIVEeSIXdTWOgP HALF OjRESILL",
    "OhS DIGRAPHa WITH RETROFLEX HOOKzeUMbRNED AaEbLPHAfDELTAfEbGbHa WITH FISHHOOKa AND TAILyIaNS",
    "ULAR GjKbLbMa WITH LONG LEGpO OPEN-Oa WITH STROKEtEa WITH HORIZONTAL STROKErSTROKEnPEN EgRa ",
    "WITH HOOKeLONG LEGa AND RETROFLEX HOOKzcMIDDLE TILDEmPALATAL HOOKmTAILlTa WITH CURLlUIcVbWbY",
    "a WITH BELTrZcUa BARa WITH SHORT RIGHT LEGyWITH ACUTEfBREVEfCARONeIRCUMFLEXa BELOWqDIAERESIS",
    "a AND ACUTEfCARONfGRAVEfMACRONkBELOWoOT BELOWhUBLE ACUTEfGRAVEmGRAVEfHOOK ABOVEiRNa AND ACUT",
    "EfDOT BELOWjGRAVEfHOOK ABOVEkTILDEoINVERTED BREVEoLEFT HOOKjMACRONa AND DIAERESISuOGONEKgRET",
    "ROFLEX HOOKnING ABOVEkSHORT RIGHT LEGoTROKEgTILDEa AND ACUTEjBELOWrEbIbMbObPSILONa WITH STRO",
    "KEtVa WITH CURLeDIAGONAL STROKEoOT BELOWjHOOKePALATAL HOOKmRIGHT HOOKkTILDElENDdISIGOTHIC Zl",
    "OLAPUK AEcOEcUEjYcWa WITH ACUTEfCIRCUMFLEXkDIAERESISiOT ABOVEfBELOWjGRAVEfHOOKeRING ABOVErXa",
    " WITH DIAERESISiOT ABOVEjLONG LEFT LEGa AND LOW RIGHT RINGsWITH SERIFwW RIGHT RINGoPALATAL H",
    "OOKtYa WITH ACUTEfCIRCUMFLEXkDIAERESISiOT ABOVEfBELOWjGRAVEfHOOKa ABOVEkLOOPeMACRONgRING ABO",
    "VEkSHORT RIGHT LEGoTROKEgTILDElOGHeZa WITH ACUTEfCARONeIRCUMFLEXjURLeDESCENDERiOT ABOVEfBELO",
    "WjHOOKeLINE BELOWkMIDDLE TILDEmPALATAL HOOKmRETROFLEX HOOKoSTROKEfWASH TAILxIGATURE FFaIbLcI",
    "bLcIJcLONG S TiOEcSTqUBSCRIPT SMALL LETTER AbEbHbIbJbKbLbMbNbObPbRbSaCHWAfTbUbVbXzeEAF FLUTT",
    "ERING IN WINDtY GREENjDGEReFT AND LOWER AND RIGHT TRIANGULAR THREE QUARTERS BLOCKzqONE EIGHT",
    "H BLOCKwRIGHT DOUBLE TURNSTILEqTACKdRIANGULAR HALF BLOCKzcUPPER AND RIGHT TRIANGULAR THREE Q",
    "UARTERS BLOCKzqONE EIGHTH BLOCKyGER BUBBLEjLE BRACKETa WITH DOTvRC LESS-THAN BRACKETtROW WIT",
    "H CIRCLED PLUSmSMALL CIRCLExBARB DOWN RIGHT BARB DOWN HARPOONmUP HARPOONzbUP RIGHT BARB DOWN",
    " HARPOONmUP HARPOONzdLACK LENTICULAR BRACKETsTORTOISE SHELL BRACKETzdCEILINGgLOSED ENTRYlORN",
    "ER BRACKETnURLY BRACKETa LOWER HOOKkMIDDLE PIECEmUPPER HOOKyDOTTED SUBSTITUTION BRACKETzUBLE",
    " ANGLE BRACKETnPARENTHESISlQUOTATION MARKoWIGGLY FENCEtFISH TAILhVE EIGHTHS BLOCKrLOORfHALF ",
    "BLACK CIRCLEgSTARiOCKfCIRCLEa WITH DOTdFOUR DOTSjTHREE DOTSjWO DOTSuFOLDERgINVERSE MEDIUM SH",
    "ADE AND RIGHT HALF BLOCKzqMEDIUM SHADEmRUNNING MANoND TELEPHONE RECEIVERxLOW PARAPHRASE BRAC",
    "KETvUGGAGEhMULTIMAPiNORMAL FACTOR SEMIDIRECT PRODUCTzhONE EIGHTH BLOCKmQUARTER BLOCKqUTER JO",
    "INkPARENTHESISa EXTENSIONjLOWER HOOKkUPPER HOOKwRAISED OMISSION BRACKETwIGHT ARROWa THROUGH ",
    "SMALL CIRCLEuWITH DOUBLE VERTICAL STROKEwSTROKEgVERTICAL STROKEzbBLACK ARROWlDOUBLE ARROWa W",
    "ITH STROKEgVERTICAL STROKEziOPEN-HEADED ARROWrSANS-SERIF ARROWqTRIANGLE-HEADED ARROWvWAVE AR",
    "ROWjHITE ARROWrS-SHAPED BAG DELIMITERvEMIDIRECT PRODUCTqVEN EIGHTHS BLOCKsIDEWAYS U BRACKETq",
    "NGLE QUOTATION MARKuPEECH BUBBLEmQUARE BRACKETa EXTENSIONjLOWER CORNERmUPPER CORNERmWITH DOU",
    "BLE STROKEnQUILLfSTROKEgTICK IN BOTTOM CORNERnTOP CORNERsUNDERBARzcUBSTITUTION BRACKETuTACKd",
    "HIRD WHITE RIGHT POINTING INDEXzfOUGHT BUBBLEmREE EIGHTHS BLOCKnQUARTERS BLOCKtORTOISE SHELL",
    " BRACKETvRANSPOSITION BRACKETtIANGLE BESIDE VERTICAL BARwULAR ONE QUARTER BLOCKzdVERTICAL BA",
    "R WITH QUILLnOX LINErWHITE CORNER BRACKETnURLY BRACKETnLENTICULAR BRACKETsPARENTHESISlSQUARE",
    " BRACKEToTORTOISE SHELL BRACKETzcIGGLY FENCElRITING HANDn-FACING ARMENIAN ETERNITY SIGNwFIST",
    "eSVASTI SIGNa WITH DOTSzdHANDED INTERLACED PENTAGRAMzcPOINTING ANGLE BRACKETnCURVED ANGLE BR",
    "ACKETuDOUBLE ANGLE QUOTATION MARKzcMAGNIFYING GLASSzSHADED WHITE RIGHTWARDS ARROWzdIDE ARC A",
    "NTICLOCKWISE ARROWzdTO-RIGHT EMBEDDINGjISOLATEhMARKeOVERRIDEsWARDS ARROWa ABOVE ALMOST EQUAL",
    " TOpREVERSE ALMOST EQUAL TOpTILDE OPERATORwSHORT RIGHTWARDS ARROWwTILDE OPERATORtND UPPER AN",
    "D LOWER ONE EIGHTH BLOCKzlFROM BARa TO BLACK DIAMONDzOVER RIGHTWARDS ARROWvTHROUGH LESS-THAN",
    "jSUBSETgXiO BARa OVER RIGHTWARDS ARROW TO BARzgLACK DIAMONDqWITH DOTTED STEMjUBLE VERTICAL S",
    "TROKEwEQUILATERAL ARROWHEADvHOOKeLARGE TRIANGLE ARROWHEADxOOPeMEDIUM TRIANGLE ARROWHEADzNOTC",
    "HED TAILmPLUS BELOWkSMALL EQUILATERAL ARROWHEADvTRIANGLE ARROWHEADxTROKEgTAILa WITH DOUBLE V",
    "ERTICAL STROKEwVERTICAL STROKEyIP DOWNWARDSjUPWARDSlVERTICAL STROKEv-TAILkBACK-TILTED SHADOW",
    "ED WHITE ARROWzgLACK ARROWfCIRCLED WHITE ARROWyOTTOM-SHADED WHITE ARROWzCOMPRESSED ARROWqDAS",
    "HED ARROWlOUBLE ARROWa FROM BARiWITH STROKEgVERTICAL STROKEv-TAILkDASH ARROWrFINGER-POST ARR",
    "OWqRONT-TILTED SHADOWED WHITE ARROWziHANDcRPOON OVER RIGHTWARDS HARPOONxWITH BARB DOWN ABOVE",
    " RIGHTWARDS HARPOON WITH BARB DOWNzoBELOW LONG DASHpFROM BARiTO BARhWARDSjUP ABOVE LEFTWARDS",
    " HARPOON WITH BARB DOWNzgONG DASHjRIGHTWARDS HARPOON WITH BARB UPzmFROM BARiTO BARhWARDSyEAV",
    "Y ARROWfCOMPRESSED ARROWwLEFT-SHADED WHITE ARROWxOPEN-HEADED ARROWrPAIRED ARROWSnQUADRUPLE A",
    "RROWpRIGHT-SHADED WHITE ARROWxOCKETgSANS-SERIF ARROWpQUARED ARROWkIGGLE ARROWoTOP SHADED WHI",
    "TE ARROWvRIANGLE ARROWHEADk-HEADED ARROWa OVER RIGHTWARDS TRIANGLE-HEADED ARROWzmTO BARgWITH",
    " BOLD SHAFTkDOUBLE HORIZONTAL STROKErVERTICAL STROKEwHEAVY SHAFTlLONG TIP DOWNWARDSjUPWARDSq",
    "MEDIUM SHAFTmNARROW SHAFTmVERY HEAVY SHAFTzcDASHED ARROWmPAIRED ARROWSzbPLE ARROWfDASH ARROW",
    "qWO HEADED ARROWn-HEADED ARROW FROM BARiWITH DOUBLE VERTICAL STROKEwTAILa WITH DOUBLE VERTIC",
    "AL STROKEwVERTICAL STROKEyRIANGLE ARROWHEADStVERTICAL STROKEzbTRIPLE DASH ARROWzdWAVE ARROWj",
    "HITE ARROWa WITHIN TRIANGLE ARROWHEADzuGbMONdOaPARDfPCHA CONSONANT SIGN KaANGeLbMbNaYIN-DOhP",
    "bRbTqDIGIT EIGHTfFIVEdOUReNINEeONEdSEVENeIXdTHREEeWOdZEROkLETTER AbBAbLAdCAbHAdDAbDAcZAdFAbL",
    "AdGAbLAdHAbLAdJAcKAbHAcLAdLAcMAbLAdNAbGAcYAdPAbHAcLAdRAcSAbHAdTAbHAcSAbHAdTAbHAeVAcWAcYAjPUN",
    "CTUATION CER-WAgNYET THYOOM TA-ROLsTA-ROLfSHOOKa CER-WAzSIGN NUKTAfRANhUBJOINED LETTER RAcYA",
    "tVOWEL SIGN AAcEbIbOaOcUaUsSS-THAN ABOVE DOUBLE-LINE EQUAL ABOVE GREATER-THANzlGREATER-THAN ",
    "ABOVE DOUBLE-LINE EQUALzlLEFTWARDS ARROWpSIMILAR ABOVE GREATER-THANsOR EQUALpLANTED EQUAL AB",
    "OVE GREATER-THAN ABOVE SLANTED EQUALzzhND NOT APPROXIMATEpSINGLE-LINE NOT EQUAL TOzdBUT NOT ",
    "EQUAL TOfIVALENT TOvCLOSED BY CURVEa ABOVE SLANTED EQUALzkEQUAL TO OR GREATER-THANyOR APPROX",
    "IMATElEQUAL TOfIVALENT TOnGREATER-THANmSLANTED EQUAL TOa WITH DOT ABOVEa RIGHTlINSIDEzjVER E",
    "QUAL TOnSIGNeWITH CIRCLE INSIDEnDOTdQUESTION MARK ABOVEzhVEL SLIDERlFbIBRAdGATURE OPEN ET OR",
    "NAMENTwHT CHECK MARKkEIGHT SPOKED ASTERISKvFIVE POINTED BLACK STARsSPOKED ASTERISKtOUR POINT",
    "ED BLACK CUSPeSTARxGREEK CROSSlLEFT TORTOISE SHELL BRACKET ORNAMENTzlRAILdIGHT TORTOISE SHEL",
    "L BRACKET ORNAMENTzmSALTIREgHADEeIX SPOKED ASTERISKtTHREE POINTED BLACK STARxWELVE POINTED B",
    "LACK STARzVERTICAL BARmWHITE SQUAREnNINGa MOODa BUBBLEtMBU DIGIT EIGHTfFIVEdOUReNINEeONEdSEV",
    "ENeIXdTHREEeWOdZEROkEXCLAMATION MARKqLETTER BAbHAdCAbHAdDAbHAdGAbHAcYANeHAcJAbHAdKAbHAdLAcMA",
    "cNAbGAdPAbHAdRAcSAbHAcSAdTAbHAcRAdWAcYAaNkQUESTION MARKnSIGN KEMPHRENGjLOOdMUKPHRENGjSA-IiMA",
    "LL LETTER ANUSVARAiKAcLAcMAcNAbGAdPAcRAcTAoUBJOINED LETTER RAcWAcYAtVOWEL SIGN AaIbUcEaEcIbO",
    "aOcUh-CARRIER LETTERxITED LIABILITY SIGNuNE FEEDeINTEGRATION NOT INCLUDING THE POLEwWITH REC",
    "TANGULAR PATH AROUND POLEzdSEMICIRCULAR PATH AROUND POLEzvSEPARATORjTABULATIONa SETpAR A SIG",
    "N A028Be100-102g20Bd31Ce301b2b3b4b5b6b7b8b9AbBbCd10b1b2b3AbBbCc4b5b6b7b8b9c20b1b2b3b4b5b6b7b",
    "8b9c30b1b2b3b4b5b6b7b8b9c40b1b2b3b4b5b6b7b8b9c50b1b2b3b4b5b6b7b8b9c60b1b2b3b4b5b6b7b8b9c70b1",
    "d400-VASf1-VASf2-VASf3-VASf4-VASf5-VASf6-VASf7-VASf8-VASf9-VASg10-VASf1-VASf2-VASf3-VASf4-VA",
    "Sf5-VASf6-VASf7-VASf8-VASh501b2b3b4b5b6b8b9c10b1b2b3b5b6c20b1b3b4b5b6b7b8b9c30b1b2b4b5b6b7b8",
    "b9c40b1b2b5b7b8b9c50b1b2b3b4b5b6b7b9c63b4b5b6b8b9c70b1b2b3b4b5b6b7b8b9c80b1b2b3b4b5b6b7b8b9c",
    "91b2b4b5b6b8d600b1b2b3b4b6b8b9c10b1b2b3b4b5b6b7b8b9c20b1b2b3b4b6b7b8b9c34b7b8c40b2b3b4b5b6b8",
    "b9c51b2b3b4b5b6b7b8b9c60b1b2b3b4d701 Ad2 Bd3 Dd4 Ed5 Fd6 Hd7 Jd8 Kd9 Lc-2 L2e3 L3e4 L4e6 L6h",
    "10 Wd1 Xd2 Yd3 OMEGAh4 ABBf5 BBe7 DDf26 EYYYh32 JEg800b1b2b3b4b5b6b7dB001b2b3b4b5b6b7b8b9c10",
    "b1b3b6b7c20b1aFbMc2aFbMc3aMc4b6b7b8b9c30b1b4b7b8b9c40b1b4b5b6b7b8b9c50b1b3b4b5b6b7b8b9c60b1b",
    "5b6b7b9c70b3b4b6b7b8b9c80b1b2b5b6b7d118c20b2b3c31AbBd64c71c80b8c91mB IDEOGRAM B100 MANf2 WOM",
    "ANh4 DEERg5 EQUIDgF MAREgM STALLIONl6F EWEfM RAMg7F SHE-GOATkM HE-GOATk8F SOWfM BOARh9F COWf",
    "M BULLi20 WHEATh1 BARLEYi2 OLIVEh3 SPICEh5 CYPERUSk30 OILf1 WINEg2c40 BRONZEi1 GOLDg2b5 WOOL",
    "g6c50b1 HORNg2b3b4b7b8b9 CLOTHi60b1b2 GARMENTj3 ARMOURi4b5b6b7b8b9c70b1b2b3 MONTHh4b6 TREEg7",
    "b8b9c80b1b2b3b4b5b9c90b1 HELMETk220 FOOTSTOOLl5 BATHTUBk30 SPEARh1 ARROWh2b3 SWORDh4b6c40 WH",
    "EELED CHARIOTr1 CHARIOTj2 CHARIOT FRAMEp3 WHEELh5b6b8b9c51b2b3b4 DARTg5b6b7b8b9eVESSEL B155d",
    "200b1b2b3b4b5b6b7b8b9c10b1b2b3b4b5b6b7b8b9c21b2b6b7b8b9c50d305uMONOGRAM B127 KAPOg8 KANAKOj3",
    "3 AREPAh5 MERIh56 TURO2j247 DIPTEtSYLLABLE B001 DAe2 ROe3 PAe4 TEe5 TOe6 NAe7 DIe8 Ad9 SEf10",
    " Ud1 POe2 SOe3 MEe4 DOe5 MOe6 QAe7 ZAf20 ZOe1 QIe3 MUe4 NEe5 A2e6 RUe7 REe8 Id9 PU2g30 NIe1 ",
    "SAe2 QOe3 RA3f6 JOe7 TIe8 Ed9 PIf40 WIe1 SIe2 WOe3 A3e4 KEe5 DEe6 JEe8 NWAg50 PUe1 DUe2 NOe3",
    " RIe4 WAe5 NUe7 JAe8 SUe9 TAf60 RAe1 Od2 PTEf5 JUe6 TA2f7 KIe8 RO2f9 TUf70 KOe1 DWEf2 PEe3 M",
    "Ie4 ZEe5 WEe6 RA2f7 KAe8 QEf80 MAe1 KUe5 AUe7 TWEg90 DWOf1 TWOpMBOL B018b9c22c34c47b9c56c63b",
    "4c79c82b3b6b9rK SYMBOLhED PAPERCLIPSpON FACEhPSaTICKgRA SIGNhSU LETTER AaEcBAcCAbHAdDAbZAdEa",
    "UcFAcGAbHAdHAbHAdIbJAcKAbHAdLAcMAcNAbGAdOaEcPAbHAdSAbHAdTAbHAcONE MYA BOcCYAdJEUdNAcTIgNA PO",
    "jSAbHAeUaEbHcWAcXAcYAbHAdZAbHAkPUNCTUATION COMMAfFULL STOPyVRE TOURNOIS SIGNrZARDfLAMAeOBSTE",
    "RfCKa WITH INK PENnING-SHIFT ONEdZEROqGICAL ANDa WITH DOT ABOVEhUBLE OVERBARhUNDERBARpHORIZO",
    "NTAL DASHpMIDDLE STEMlUNDERBARrORa OVERLAPPING LOGICAL ANDxWITH DOT ABOVEhUBLE OVERBARhUNDER",
    "BARpHORIZONTAL DASHpMIDDLE STEMzLLIPOPgNG DASH FROM LEFT MEMBER OF DOUBLE VERTICALzoIVISIONh",
    "RUMeLEFT RIGHT ARROWfDOUBLE ARROWsTACKfWARDS ARROWa FROM BARoDOUBLE ARROWa FROM BARvSQUIGGLE",
    " ARROWyRIGHT TACKfWARDS ARROWa FROM BARoDOUBLE ARROWa FROM BARvSQUIGGLE ARROWzdTION BOTTLEkU",
    "SdUDLY CRYING FACEqVE HOTELfLETTERjW ASTERISKiBATTERYgRIGHTNESS SYMBOLrDOUBLE PRIME QUOTATIO",
    "N MARKzcKAVYKAa WITH DOTpLINEfER BLADE SCISSORSoFIVE EIGHTHS BLOCKsHALF BLOCKfCIRCLEgINVERSE",
    " WHITE CIRCLEuMEDIUM SHADErLEFT BALLPOINT PENmLOCK DIAGONAL LOWER MIDDLE LEFT TO LOWER CENTR",
    "EgRIGHTzhUPPER CENTRE TO LOWER MIDDLE RIGHTmRIGHTlUPPER MIDDLE RIGHTzdLEFT TO LOWER CENTREgM",
    "IDDLE RIGHTsUPPER MIDDLE RIGHTzbMIDDLE LEFT TO LOWER CENTREgMIDDLE RIGHTmRIGHTzwCRAYONgFOUNT",
    "AIN PENmPAINTBRUSHjENCILgQUADRANT CIRCULAR ARCvSEMICIRCULAR ANTICLOCKWISE ARROWzhTRIANGLEcUL",
    "AR MEDIUM SHADEzdONE EIGHTH BLOCKmQUARTER BLOCKrRIGHT BLOCK DIAGONAL LOWER CENTRE TO LOWER M",
    "IDDLE RIGHTsUPPER MIDDLE RIGHTmRIGHTvLEFT TO LOWER MIDDLE RIGHTsUPPER CENTREgMIDDLE RIGHTzbM",
    "IDDLE LEFT TO UPPER CENTREgMIDDLE RIGHTmRIGHTzhUPPER MIDDLE LEFT TO UPPER CENTREgRIGHTzwCORN",
    "ER WITH DOTpDROP-SHADOWED WHITE SQUAREzbPENCILgQUADRANT CIRCULAR ARCvSEMICIRCULAR CLOCKWISE ",
    "ARROWzcHADOWED WHITE CIRCLEgSQUAREvTRIANGLEcULAR MEDIUM SHADEzeSEVEN EIGHTHS BLOCKtTHREE EIG",
    "HTHS BLOCKnQUARTERS BLOCKtRIANGULAR ONE QUARTER BLOCKzhZENGEa DIVIDED BY HORIZONTAL RULEziRE",
    "bIbMbOcUGGAGEfNGSeYCIAN LETTER AaNcBaHcDbEaNcGbHbIbJbKaKcLbMaMcNaNcPbQbRbSbTaHbTcUbWbXbZnDIA",
    "N LETTER AaNcBbCbDbEaNcFbGbIbKbLaYcMbNaNcObQbRbSaScTaTcUbVbYiTRIANGULAR MARKuING FACEkMACRON",
    "eGEbIC WANDhNETeHAJANI ABBREVIATION SIGNrLETTER AbBAbHAdCAbHAdDAbDAbHAdHAdEbGAbHAdHAcIbJAbHA",
    "dKAbHAdLAcMAcNAbNAcYAdObPAbHAdRAbRAdSAcTAbHAcTAbHAeUbVAiIGATURE SHRInSECTION MARKlIGN NUKTAq",
    "JONG TILE AUTUMNgBACKcMBOOgCHRYSANTHEMUMnEAST WINDiIGHT OF BAMBOOShCHARACTERSjIRCLESqFIVE OF",
    " BAMBOOShCHARACTERSjIRCLESoOUR OF BAMBOOShCHARACTERSjIRCLESpGREEN DRAGONmJOKERfNINE OF BAMBO",
    "OShCHARACTERSjIRCLESoORTH WINDkONE OF BAMBOOShCHARACTERSjIRCLESnRCHIDgPLUMeRED DRAGONkSEVEN ",
    "OF BAMBOOShCHARACTERSjIRCLESpIX OF BAMBOOShCHARACTERSjIRCLESnOUTH WINDjPRINGfUMMERgTHREE OF ",
    "BAMBOOShCHARACTERSjIRCLESpWO OF BAMBOOShCHARACTERSjIRCLESoWEST WINDiHITE DRAGONlINTERrKASAR ",
    "ANGKAfEND OF SECTIONoLETTER AbBAcCAcDAcGAcJAcKAcLAcMAcNAbGAcYAdPAcRAcSAcTAcVAcYAjPASSIMBANGk",
    "VOWEL SIGN EbIbObUsLAYALAM AU LENGTH MARKoDATE MARKiIGIT EIGHTfFIVEdOUReNINEeONEdSEVENeIXdTH",
    "REEeWOdZEROkFRACTION ONE EIGHTHgFIFTHeORTIETHiHALFeONE-HUNDRED-AND-SIXTIETHyQUARTERhSIXTEENT",
    "HjTENTHeWENTIETHnTHREE EIGHTIETHSkQUARTERSiSIXTEENTHSkTWENTIETHSzLETTER AaAbIbRCHAIC IIjUcBA",
    "bHAdCAbHAbILLU KbLaLaLdMbNaNcRRcYiDAbDAbHAdHAcOT REPHiEaEcGAbHAdHAcIaIcJAbHAdKAbHAdLAbLAbLAe",
    "MAcNAbGAcNAbNAdYAdOaOcPAbHAdRAbRAdSAbHAcSAdTAbHAcTAbHAcTAeUaUcVAbEDIC ANUSVARAnOCALIC LaLcRa",
    "RkYAjNUMBER ONE HUNDREDhTHOUSANDmTENkSIGN ANUSVARAhVAGRAHAiCANDRABINDUkIRCULAR VIRAMAoOMBINI",
    "NG ANUSVARA ABOVEyPARAeVERTICAL BAR VIRAMAsIRAMAeSARGAmVOWEL SIGN AAbIbUcEaEcIaIcOaOcUaUcVOC",
    "ALIC LaLcRaRzdE AND FEMALE SIGNpSIGNeWITH STROKE AND MALE AND FEMALE SIGNySIGNsTESE CROSSlMM",
    "OTHfNa AND WOMAN HOLDING HANDSxDANCINGhIN BUSINESS SUIT LEVITATINGyTUXEDOjWITH GUA PI MAOkTU",
    "RBANmAT SIGNhDAIC AFFRICATION MARKqGEMINATION MARKpLETTER ABbDbGbHbINcKaSAdLbMbNbPbQbRbSaHbZ",
    "cTaTcZcDUSHENNAiHALQAfINbTcKADdUSHENNAoPUNCTUATIONlVOCALIZATION MARKwGOcICHAEAN ABBREVIATION",
    " MARK ABOVEfBELOWxLETTER AAYINeLEPHeYINeBETHdHETHfDALETHfHAMEDHhFEcGHIMELfIMELfHEaTHeJAYINeH",
    "AYINgKAPHdHAPHfLAMEDHgMEMdNUNdPEcQHOPHeOPHeRESHeSADHEdMEKHfHINdSHINfTAWcETHdHAMEDHhWAWdXAPHd",
    "OPHeYODHeZAYINeHAYINnNUMBER FIVEeONEa HUNDREDlTENcWENTYnPUNCTUATION DOTa WITHIN DOTmUBLE DOT",
    " WITHIN DOTvFLEURONhLINE FILLERlSTAReTWO DOTSuSIGN UDpS SHOEgTELPIECE CLOCKoUAL WHEELCHAIRpP",
    " SYMBOL FOR LIGHTHOUSEwLE LEAFiRCHEN HEAD MARKjLETTER -AcAbBAcCAbHAdDAbZAdGAcHAcJAcKAbHAdLAc",
    "MAcNAbGAcYAdPAbHAdRAcSAbHAdTAbHAcSAbHAeWAcYAcZAbHAkMARK SHADjSIGN ANUSVARAiCANDRABINDUpUBJOI",
    "NED LETTER AbBAcCAbHAdDAbZAdGAcHAcJAcKAbHAdLAcMAcNAbGAcYAdPAbHAdRAcSAbHAdTAbHAcSAbHAeWAcYAcZ",
    "AbHAuVOWEL SIGN AAcEbIbObUrRIAGE SYMBOLmTIAL ARTS UNIFORMsSARAM GONDI DIGIT EIGHTfFIVEdOUReN",
    "INEeONEdSEVENeIXdTHREEeWOdZEROkLETTER AaAbIbUcBAbHAdCAbHAdDAbDAbHAdHAdEbGAbHAdHAcIaIcJAbHAcN",
    "YAeKAbHAcSSAeLAbLAdMAcNAbGAcNAcYAdObPAbHAdRAcSAbHAcSAdTAbHAcRAcTAbHAeUaUcVAcYAjRA-KARAgEPHAf",
    "SIGN ANUSVARAiCANDRAgHALANTAhNUKTAfVISARGAmVIRAMAfOWEL SIGN AAbIbUcEbIaIcObUaUcVOCALIC RzgCU",
    "LINE ORDINAL INDICATORyK WORK SYMBOLnU MARKhTE DRINKhHEMATICAL BOLD CAPITAL AaLPHAfBaETAeCaH",
    "IdDaELTAeIGAMMAhEaPSILONgTAdFbGaAMMAfHbIaOTAeJbKaAPPAfLaAMDAfMaUcNaUcOaMEGAdICRONhPaHIcIbSId",
    "QbRaHOdSaIGMAfTaAUcHETAa SYMBOLmUaPSILONhVbWbXaIcYbZaETAmDIGIT EIGHTfFIVEdOUReNINEeONEdSEVEN",
    "eIXdTHREEeWOdZEROkEPSILON SYMBOLoFRAKTUR CAPITAL AbBbCbDbEbFbGbHbIbJbKbLbMbNbObPbQbRbSbTbUbV",
    "bWbXbYbZjSMALL AbBbCbDbEbFbGbHbIbJbKbLbMbNbObPbQbRbSbTbUbVbWbXbYbZpITALIC CAPITAL AaLPHAfBaE",
    "TAeCaHIdDaELTAfEaPSILONgTAdFbGaAMMAfHbIaOTAeJbKaAPPAfLaAMDAfMaUcNaUcOaMEGAdICRONhPaHIcIbSIdQ",
    "bRaHOdSaIGMAfTaAUcHETAa SYMBOLmUaPSILONhVbWbXaIcYbZaETAmEPSILON SYMBOLoKAPPA SYMBOLmNABLAfPA",
    "RTIAL DIFFERENTIALtHI SYMBOLjI SYMBOLjRHO SYMBOLkSMALL AaLPHAfBaETAeCaHIdDaELTAfEaPSILONgTAd",
    "FaINAL SIGMAlGaAMMAfHbIaOTAeJbKaAPPAfLaAMDAfMaUcNaUcOaMEGAdICRONhPaHIcIbSIdQbRaHOdSaIGMAfTaA",
    "UcHETAfUaPSILONhVbWbXaIcYbZaETAkTHETA SYMBOLtKAPPA SYMBOLmNABLAfPARTIAL DIFFERENTIALtHI SYMB",
    "OLjI SYMBOLjRHO SYMBOLkSCRIPT CAPITAL AbBbCbDbEbFbGbHbIbJbKbLbMbNbObPbQbRbSbTbUbVbWbXbYbZjSM",
    "ALL AbBbCbDbEbFbGbHbIbJbKbLbMbNbObPbQbRbSbTbUbVbWbXbYbZnMALL AaLPHAfBaETAeCaHIdDaELTAeIGAMMA",
    "hEaPSILONgTAdFaINAL SIGMAlGaAMMAfHbIaOTAeJbKaAPPAfLaAMDAfMaUcNaUcOaMEGAdICRONhPaHIcIbSIdQbRa",
    "HOdSaIGMAfTaAUcHETAfUaPSILONhVbWbXaIcYbZaETAkTHETA SYMBOLrDOUBLE-STRUCK CAPITAL AbBbDbEbFbGb",
    "IbJbKbLbMbObSbTbUbVbWbXbYjDIGIT EIGHTfFIVEdOUReNINEeONEdSEVENeIXdTHREEeWOdZEROkSMALL AbBbCbD",
    "bEbFbGbHbIbJbKbLbMbNbObPbQbRbSbTbUbVbWbXbYbZvFALLING DIAGONALpRAKTUR CAPITAL AbBbDbEbFbGbJbK",
    "bLbMbNbObPbQbSbTbUbVbWbXbYjSMALL AbBbCbDbEbFbGbHbIbJbKbLbMbNbObPbQbRbSbTbUbVbWbXbYbZpITALIC ",
    "CAPITAL AaLPHAfBaETAeCaHIdDaELTAfEaPSILONgTAdFbGaAMMAfHbIaOTAeJbKaAPPAfLaAMDAfMaUcNaUcOaMEGA",
    "dICRONhPaHIcIbSIdQbRaHOdSaIGMAfTaAUcHETAa SYMBOLmUaPSILONhVbWbXaIcYbZaETAmEPSILON SYMBOLoKAP",
    "PA SYMBOLmNABLAfPARTIAL DIFFERENTIALtHI SYMBOLjI SYMBOLjRHO SYMBOLkSMALL AaLPHAfBaETAeCaHIdD",
    "aELTAeOTLESS IbJjEaPSILONgTAdFaINAL SIGMAlGaAMMAfIaOTAeJbKaAPPAfLaAMDAfMaUcNaUcOaMEGAdICRONh",
    "PaHIcIbSIdQbRaHOdSaIGMAfTaAUcHETAfUaPSILONhVbWbXaIcYbZaETAkTHETA SYMBOLtLEFT ANGLE BRACKETnD",
    "OUBLE ANGLE BRACKETuFLATTENED PARENTHESISvWHITE SQUARE BRACKEToTORTOISE SHELL BRACKETziMONOS",
    "PACE CAPITAL AbBbCbDbEbFbGbHbIbJbKbLbMbNbObPbQbRbSbTbUbVbWbXbYbZjDIGIT EIGHTfFIVEdOUReNINEeO",
    "NEdSEVENeIXdTHREEeWOdZEROkSMALL AbBbCbDbEbFbGbHbIbJbKbLbMbNbObPbQbRbSbTbUbVbWbXbYbZrRIGHT AN",
    "GLE BRACKETnDOUBLE ANGLE BRACKETuFLATTENED PARENTHESISvWHITE SQUARE BRACKEToTORTOISE SHELL B",
    "RACKETzhSING DIAGONALpSANS-SERIF BOLD CAPITAL AaLPHAfBaETAeCaHIdDaELTAfEaPSILONgTAdFbGaAMMAf",
    "HbIaOTAeJbKaAPPAfLaAMDAfMaUcNaUcOaMEGAdICRONhPaHIcIbSIdQbRaHOdSaIGMAfTaAUcHETAa SYMBOLmUaPSI",
    "LONhVbWbXaIcYbZaETAmDIGIT EIGHTfFIVEdOUReNINEeONEdSEVENeIXdTHREEeWOdZEROkEPSILON SYMBOLoITAL",
    "IC CAPITAL AaLPHAfBaETAeCaHIdDaELTAfEaPSILONgTAdFbGaAMMAfHbIaOTAeJbKaAPPAfLaAMDAfMaUcNaUcOaM",
    "EGAdICRONhPaHIcIbSIdQbRaHOdSaIGMAfTaAUcHETAa SYMBOLmUaPSILONhVbWbXaIcYbZaETAmEPSILON SYMBOLo",
    "KAPPA SYMBOLmNABLAfPARTIAL DIFFERENTIALtHI SYMBOLjI SYMBOLjRHO SYMBOLkSMALL AaLPHAfBaETAeCaH",
    "IdDaELTAfEaPSILONgTAdFaINAL SIGMAlGaAMMAfHbIaOTAeJbKaAPPAfLaAMDAfMaUcNaUcOaMEGAdICRONhPaHIcI",
    "bSIdQbRaHOdSaIGMAfTaAUcHETAfUaPSILONhVbWbXaIcYbZaETAkTHETA SYMBOLtKAPPA SYMBOLmNABLAfPARTIAL",
    " DIFFERENTIALtHI SYMBOLjI SYMBOLjRHO SYMBOLkSMALL AaLPHAfBaETAeCaHIdDaELTAfEaPSILONgTAdFaINA",
    "L SIGMAlGaAMMAfHbIaOTAeJbKaAPPAfLaAMDAfMaUcNaUcOaMEGAdICRONhPaHIcIbSIdQbRaHOdSaIGMAfTaAUcHET",
    "AfUaPSILONhVbWbXaIcYbZaETAkTHETA SYMBOLrCAPITAL AbBbCbDbEbFbGbHbIbJbKbLbMbNbObPbQbRbSbTbUbVb",
    "WbXbYbZjDIGIT EIGHTfFIVEdOUReNINEeONEdSEVENeIXdTHREEeWOdZEROkITALIC CAPITAL AbBbCbDbEbFbGbHb",
    "IbJbKbLbMbNbObPbQbRbSbTbUbVbWbXbYbZjSMALL AbBbCbDbEbFbGbHbIbJbKbLbMbNbObPbQbRbSbTbUbVbWbXbYb",
    "ZoSMALL AbBbCbDbEbFbGbHbIbJbKbLbMbNbObPbQbRbSbTbUbVbWbXbYbZrCRIPT CAPITAL AbCbDbGbJbKbNbObPb",
    "QbSbTbUbVbWbXbYbZjSMALL AbBbCbDbFbHbIbJbKbLbMbNbPbQbRbSbTbUbVbWbXbYbZzXIMIZEgYAN NUMERAL EIG",
    "HTaEENhLEVENgFIFTEENfVEdOURaTEENiNINEaTEENiONEdSEVENaTEENiIXaTEENhTENcHIRTEENgREEeWELVEeOdZE",
    "ROrEASURED ANGLEa OPENING LEFTmWITH OPEN ARM ENDING IN ARROW POINTING DOWN AND LEFTeRIGHToLE",
    "FT AND DOWNeUPlRIGHT AND DOWNeUPmUP AND LEFTeRIGHTzzhBYcRIGHT ANGLE WITH DOTzbT ON BONEkCHAN",
    "ICAL ARMdLEGmDEFAIDRIN CAPITAL LETTER AaIbTIUeBbCbDbEbFbGbHaPcIbJbKaPcLbMbNaGbYcOaEcPbQbRbSb",
    "TbUbVbWbXbYaUcZpOMMAfDIGIT EIGHTfFIVEdOUReNINEeONEa ALTERNATE FORMsSEVENeIXdTHREEa ALTERNATE",
    " FORMtWOa ALTERNATE FORMsZEROkEXCLAMATION OHoFULL STOPjNUMBER EIGHTEENhLEVENgFIFTEENgOURTEEN",
    "iNINETEENiSEVENTEENiIXTEENhTENcHIRTEENhWELVEnSMALL LETTER AaIbTIUeBbCbDbEbFbGbHaPcIbJbKaPcLb",
    "MbNaGbYcOaEcPbQbRbSbTbUbVbWbXbYaUcZnYMBOL AIVAuIEVAL COMMAfEXCLAMATION MARKqQUESTION MARKsUM",
    " BLACK CIRCLElOLD WHITE CIRCLErEIGHT POINTED BLACK STARsSPOKED ASTERISKvFIVE SPOKED ASTERISK",
    "tLATTENED LEFT PARENTHESIS ORNAMENTzRIGHT PARENTHESIS ORNAMENTzkOUR POINTED BLACK STARkPINWH",
    "EEL STARzbGREEK CROSSlLEFT CURLY BRACKET ORNAMENTwPARENTHESIS ORNAMENTv-POINTING ANGLE BRACK",
    "ET ORNAMENTzlMATHEMATICAL SPACEsRIGHT CURLY BRACKET ORNAMENTwPARENTHESIS ORNAMENTv-POINTING ",
    "ANGLE BRACKET ORNAMENTzmSALTIREgHADEeIX POINTED BLACK STARsSPOKED ASTERISKsMALL WHITE CIRCLE",
    "sTHREE POINTED BLACK STARkPINWHEEL STARzcVERTICAL BARmWHITE CIRCLEgSQUARErETEI MAYEK AHANG K",
    "HUDAMlNJIdPUN IYEKjCHEIKHANcEIiDIGIT EIGHTfFIVEdOUReNINEeONEdSEVENeIXdTHREEeWOdZEROkLETTER A",
    "TIYAfBAbHAMeCHAbILeDDAbHAdHOUdILdEbGHOUdOKdHUKdIa LONSUMiJHAMdILdKHOUdOKa LONSUMkLAIa LONSUM",
    "kMITa LONSUMkNAa LONSUMiGOUa LONSUMkNAcYAdObPAa LONSUMiHAMeRAIdSAMcHAcSAdTHOUdILa LONSUMjTAb",
    "HAeUNcWAIdYANGkUM IYEKiSYLLABLE REPETITION MARKyVIRAMAfOWEL SIGN AAIbUcNAPdUcCHEINAPhIIbNAPe",
    "NUNGeONAPeSOUNAPgUNAPdUcVISARGAhYENAPqWORD REPETITION MARKzgLONcTING FACEkMOcNDE KIKAKUI COM",
    "BINING NUMBER HUNDRED THOUSANDSkSiMILLIONSiTEENSdN THOUSANDSkSdHOUSANDSzbDIGIT EIGHTfFIVEdOU",
    "ReNINEeONEdSEVENeIXdTHREEeWOjSYLLABLE M001 KIe2 KAe3 KUe4 WIe5 WAe6 WUe7 MINf8 MANf9 MUNg10 ",
    "BIe1 BAe2 BUe3 Id4 Ad5 Ud6 DIe7 DAe8 DUe9 SIf20 SAe1 SUe2 TIe3 TAe4 TUe5 LIe6 LAe7 LUe8 JIe9",
    " JAf30 JUe1 YIe2 YAe3 YUe4 FIe5 FAe6 FUe7 NINf8 NANf9 NUNg40 HEEf1 HAe2 HOOf3 NGGAg4 KPEEg5 ",
    "WOe6 HUANg7 MBEEg8 KOe9 WVAg50 PUe1 PEe2 HENf3 HINf4 LOOf5 TEe6 GBAf7 NGONg8 NYANg9 MENg60 N",
    "YONg1 WVIf2 MBAf3 JOe4 NDOf5 KEEf6 POe7 NDOOg8 PIe9 TOf70 GBOf1 GBOOg2 MBEf3 LEe4 KPUf5 FEe6",
    " KOOf7 VOe8 FEEf9 SOf80 YEe1 PEEf2 NGGUg3 HEEIg4 LEEf5 VEe6 LONG NGGEl7 HUNf8 FOe9 DEEg90 NG",
    "GIg1 TEEf2 KPAf3 GBEEg4 MONf5 KEe6 HEe7 BEe8 NYENg9 PAg100 Ed1 FANf2 POOf3 BOOf4 TOOf5 LONG ",
    "MBOOl6 LONG NGGOOm7 GBEf8 KPEf9 YEEg10 LONG LEj1 GAe2 KPOOg3 JEe4 WOOf5 NGGEEh6 SEe7 NENf8 W",
    "Ee9 NDEg20 NGGOg1 YOe2 MBUf3 NDIf4 GBIf5 NDUf6 WEEf7 NGGUAh8 HOOUg9 NDAg30 HANf1 INe2 KPIf3 ",
    "FOOf4 NJOOg5 INe6 SOOf7 EIe8 BOe9 WVEg40 HOe1 YOOf2 LONG MBOk3 WEIf4 VOOf5 MBIf6 NGGEg7 Od8 ",
    "GBUf9 NJEEh50 BEEf1 VUe2 NJAf3 LOe4 MUANg5 GIe6 NGGOOh7 JEEf8 KPOf9 NGGAAi60 JOOf1 LONG MBEk",
    "2 SEEf3 EEe4 NYINg5 OOe6 GUEIg7 GUANg8 GUe9 NONg70 NYUNg1 RAe2 MBOOg3 VEEf4 MBOf5 LONG JOj6 ",
    "HIe7 NGUANh8 ENe9 KUAg80 DOOf1 DOe2 VIe3 LONG NGGOl4 NGENg5 VAe6 HUe7 MBUUg8 MBEEg9 MUENh90 ",
    "GEEf1 NDEEg2 NJUf3 HONf4 WUIf5 ANe6 SIAf7 FUAzdORAH WITH NINE BRANCHESxS SYMBOLjRCURYeOITIC ",
    "CURSIVE FRACTION EIGHT TWELFTHSnLEVEN TWELFTHSpFIVE TWELFTHSmOUR TWELFTHSnNINE TWELFTHSnONE ",
    "HALFeTWELFTHlSEVEN TWELFTHSnIX TWELFTHSmTEN TWELFTHSlHREE TWELFTHSnWO TWELFTHSvLETTER AaRCHA",
    "IC SAkBAcDAcEbHHAdIbKAbHAdLAcMAcNAbEcObPAcQAcRAcSAbEcTAbEbOcWAcYAiOGOGRAM IMNdRMTmNUMBER EIG",
    "HTa HUNDREDa THOUSANDqTHOUSANDjY THOUSANDpFIFTYa THOUSANDmVEa HUNDREDa THOUSANDqTHOUSANDmORT",
    "Ya THOUSANDmURa HUNDREDa THOUSANDqTHOUSANDnNINEa HUNDREDa THOUSANDqTHOUSANDjTY THOUSANDpONEa",
    " HUNDREDa THOUSANDqTHOUSANDmSEVENa HUNDREDa THOUSANDqTHOUSANDjTYa THOUSANDpIXa HUNDREDa THOU",
    "SANDqTHOUSANDjTYa THOUSANDoTENa THOUSANDlHIRTYa THOUSANDnREEa HUNDREDa THOUSANDqTHOUSANDnWEN",
    "TYa THOUSANDnOa HUNDREDa THOUSANDqTHOUSANDzcHIEROGLYPHIC LETTER AbBAa-2eDAcEbHHAdIbKAbHAdLAc",
    "MAcNAa-2dEa-2eObPAcQAcRAa-2eSAa-2dEcTAa-2dEa-2dOcWAcYAjSYMBOL VIDJa-2zhPERSONhSSAGE WAITINGn",
    "TRICAL BREVEfLONG OVER SHORTfTWO SHORTSuPENTASEMEjSHORT OVER LONGpTETRASEMEiRISEMEgWO SHORTS",
    " JOINEDgOVER LONGzOeIAO LETTER AHbRCHAIC MAcNAbGAdZZAlBAbRIdDAbDAcLHAbYAeZAbHAcYIcZAeFAcGAbH",
    "AbHAeHAbHAdKAcLAbHAbYAdYAdMAbHAdNAaSALIZATIONlGAbHAdHAcNAbHAdYAbHAePAbLAdQAbGAdREFORMED TONE",
    "-1b2b4b5b6b8fSHAmTEdSAbHAcSAcYIdTAbEbLHAbYAeONE-2b3b4b5b6b7b8fSAbEbHAcSAdTAdVAbFAdWAcXAcYI D",
    "ZHAeKAcNNAdPAcTAbSAbHAdTAgZAbHAcSAbHAdZAbSAbYAdYAlSIGN ASPIRATIONkCONSONANT MODIFIER BARwREF",
    "ORMED ASPIRATIONkVOICINGvTONE ABOVEfBELOWfRIGHTfTOP RIGHToVOWEL SIGN AaAbEaEcHHcIbNaGcUcEaAb",
    "IbNaGcRaRdIaAaNaGdEbGbIbNGcOaNGdUcNaGcOaERbYcGbObUcROUNDED ERaRlUaAaNaGdEIcIbNGcOGcUcVWcWaOc",
    "YaIbUIrCR DASH SYMBOLlON US SYMBOLnO SIGNfBEcPHONEfSCOPEiDDLE DOTdTHIRD WHITE RIGHT POINTING",
    " INDEXzlLINE HORIZONTAL ELLIPSISzLITARY HELMETgMEDALlKY WAYgL SIGNhNIBUSdDISCeMIZEfUS SIGNa ",
    "IN TRIANGLElWITH COMMA ABOVElDOT BELOWjFALLING DOTSmRISING DOTSvTILDEg-OR-PLUS SIGNpYcRRORa ",
    "BALLkMSPdOBILE PHONEa OFFdWITH RIGHTWARDS ARROW AT LEFTzpDELScRN PENTATHLONoI ABBREVIATION S",
    "IGNrDANDAeIGIT EIGHTfFIVEdOUReNINEeONEdSEVENeIXdTHREEeWOdZEROjOUBLE DANDAmLETTER AaAbIbUcBAb",
    "HAdCAbHAdDAbDAbHAdHAdEbGAbHAdHAcIaIcJAbHAdKAbHAdLAbLAdMAcNAbGAcNAcYAdObPAbHAdRAcSAbHAcSAdTAb",
    "HAcTAbHAeUaUcVAbOCALIC LaLcRaRkYAjSIGN ANUSVARAhRDHACANDRAlHUVAeVIRAMAeSARGAmVOWEL SIGN AAbI",
    "bUcEbIaIcObUaUcVOCALIC LaLcRaRwFIER BREVE WITH INVERTED BREVEzLETTER ACUTE ACCENTlLVEOLAR CL",
    "ICKnPOSTROPHEkBEGIN HIGH TONEjLOW TONEnILABIAL CLICKoCAPITAL AaEcBaARRED BiCbDbEbFbGbHa WITH",
    " STROKEnIbJbKbLbMbNbOaUcPbQbRaEVERSED EbNkTbUbVbWiENTRED LEFT HALF RINGoRIGHT HALF RINGwHINE",
    "SE TONE YANG PINGeQUcRUcSHANGjIN PINGeQUcRUcSHANGvIRCUMFLEX ACCENTqOLONeROSS ACCENTlYRILLIC ",
    "ENcHARD SIGNjSOFT SIGNsDENTAL CLICKlOT HORIZONTAL BARoSLASHfVERTICAL BARoUBLE APOSTROPHEkPRI",
    "MEkWN ARROWHEADjTACKjEND HIGH TONEjLOW TONElXTRA-HIGH DOTTED LEFT-STEM TONE BARsTONE BARpLEF",
    "T-STEM TONE BARsTONE BARnLOW DOTTED LEFT-STEM TONE BARsTONE BARpLEFT-STEM TONE BARsTONE BARs",
    "GEORGIAN NARlLOTTAL STOPa WITH STROKExRAVE ACCENTmHALF TRIANGULAR COLONuIGH DOTTED LEFT-STEM",
    " TONE BARsTONE BARpLEFT-STEM TONE BARsTONE BARnLATERAL CLICKmEFT ARROWHEADjHALF RINGjTACKiOW",
    " ACUTE ACCENTmCIRCUMFLEX ACCENTrDOTTED LEFT-STEM TONE BARsTONE BARnWN ARROWHEADoGRAVE ACCENT",
    "mINVERTED EXCLAMATION MARKzLEFT ARROWaHEADk-STEM TONE BARsMACRONgRIGHT ARROWHEADnNGeTILDEeON",
    "E BARiUP ARROWHEADmVERTICAL LINEoER RIGHT CORNER ANGLEyMACRONfID DOTTED LEFT-STEM TONE BARsT",
    "ONE BARpLEFT-STEM TONE BARsTONE BARjDLE DOUBLE ACUTE ACCENTmGRAVE ACCENTtGRAVE ACCENTrNUS SI",
    "GNkOPEN SHELFkPLUS SIGNiRIMEfRAISED COLONfDOWN ARROWkEXCLAMATION MARKqINVERTED EXCLAMATION M",
    "ARKzUP ARROWoETROFLEX CLICK WITH RETROFLEX HOOKziVERSED COMMAfGLOTTAL STOPa WITH STROKEzhHOT",
    "IC HOOKkIGHT ARROWHEADjHALF RINGjTACKkSHELFdORT EQUALS SIGNqMALL AaEbINcLPHAfBa WITH HOOKkAR",
    "RED OhETAdOTTOM HALF OnCa WITH CURLkAPITAL AAcBbGa WITH HOOKlHbIa WITH STROKEmNVERTED RkLa W",
    "ITH BELTlNbOEcRbUbYiHIcLOSED OMEGAfREVERSED OPEN EwDa WITH HOOKa AND TAILnTAILkELTAdZH DIGRA",
    "PHlOTLESS J WITH STROKEa AND HOOKzeZ DIGRAPHa WITH CURLeRETROFLEX HOOKzfEaNGcSHcTHcZHdFaENG ",
    "DIGRAPHmGa WITH HOOKkAMMAeREEK GAMMAfPHIjHa WITH HOOKeSTROKEmENGa WITH HOOKoI WITH STROKEmOT",
    "AeJa WITH CROSSED-TAILtKbLa WITH BELTeINVERTED LAZY SpMIDDLE TILDEmPALATAL HOOKmRETROFLEX HO",
    "OKa AND BELTzeEZHa WITH RETROFLEX HOOKxIGATURE OEkS DIGRAPHjZ DIGRAPHkMa WITH HOOKlN WITH LE",
    "FT HOOKjRETROFLEX HOOKvOa WITH STROKEmPEN EbOgPaHIdQbRa WITH FISHHOOKiTAILkAMS HORNiEVERSED ",
    "EbGLOTTAL STOPmOPEN EpSa WITH CURLeHOOKkCHWAdRIPT GhIDEWAYS UkTa WITH PALATAL HOOKmRETROFLEX",
    " HOOKuC DIGRAPH WITH CURLtESH DIGRAPHlHETAeOP HALF OjS DIGRAPHa WITH RETROFLEX HOOKzeURNED A",
    "aEbLPHAfHbIbMa WITH LONG LEGpOPEN EgRa WITH HOOKeLONG LEGa AND RETROFLEX HOOKzjVbWbYa WITH B",
    "ELTsUa BARdWITH LEFT HOOKpPSILONhVa WITH HOOKeRIGHT HOOKrWbXbYbZa WITH CURLeRETROFLEX HOOKzb",
    "TRESS AND HIGH TONEjLOW TONEsUPERSCRIPT HALF TRIANGULAR COLONvTRIANGULAR COLONzdTRIANGULAR C",
    "OLONpURNED COMMAmUNASPIRATEDkP ARROWHEADjTACKgScVERTICAL LINEmOICINGhYANG DEPARTING TONE MAR",
    "KxIN DEPARTING TONE MARKzlULO TWO SUMmNEY BAGdWITH WINGSl-MOUTH FACEnGOLIAN BIRGAa WITH DOUB",
    "LE ORNAMENTpORNAMENTtCOLONdMMAfDIGIT EIGHTfFIVEdOUReNINEeONEdSEVENeIXdTHREEeWOdZEROjOUBLE BI",
    "RGA WITH ORNAMENTzbELLIPSISiFOUR DOTSiREE VARIATION SELECTOR FOUReONEdTHREEeWOzbULL STOPjINV",
    "ERTED BIRGAa WITH DOUBLE ORNAMENTzkLETTER AaLI GALI AaHbNUSVARA ONEmBALUDAgCAcDAaGALGAfMARUf",
    "DAdHALF UbYAhIaNVERTED UBADAMAqKAcNGAcNAdPAbHAdSSAdTAbHREE BALUDAlTAbHAeUBADAMAhVISARGA ONEl",
    "ZAbHAlNGdBAcCHAa WITH TWO DOTSpIdDAcEaEcFAcGAcHAAdIbJAcKAbHAdLAbHAdMAaNCHU ALI GALI BHAdCAbY",
    "AdDDHAdHAdGHAdJHAdLHAdNGAdSSAdTAbTAdZAbHAmFAcIbKAcRAcZHAkNAcOaEcPAcQAcRAcSAbHAcIBE ANGdCHAdD",
    "AcEbFAcGAaAdHAaAdIaYcJAcKAcPAcRAAdSHAdTAbSAdUaEcZAbHAiTAbODO ALI GALI TAcZHAlNGdBAcCHAdDAbZA",
    "dEbGAaAdHAAdIbJAbIAdKAcLONG VOWEL SIGNpMAcNIAdOaEcPAcQAcTAbSAdUaEcWAcYAgSAdUaEcWAcYAcZAbHIcR",
    "AkMANCHU COMMAfFULL STOPqNIRUGUgROTATED BIRGAa WITH DOUBLE ORNAMENTpORNAMENTzcSIBE SYLLABLE ",
    "BOUNDARY MARKERzdWIRL BIRGAa WITH DOUBLE ORNAMENTpORNAMENTzTODO SOFT HYPHENpRIPLE BIRGA WITH",
    " ORNAMENTzURNED SWIRL BIRGA WITH DOUBLE ORNAMENTzoVOWEL SEPARATORwKEYa FACEiOGRAM FOR EARTHf",
    "YANGdINmRAILeSTABLE SYMBOLpOD BUBBLEiN CAKEeVIEWING CEREMONYtSQUEbITOgTHER CHRISTMASnOR BOAT",
    "eSCOOTERiIZED WHEELCHAIRpWAYgUNT FUJIfAINa BICYCLISTjCABLEWAYiRAILWAYnSEa FACEeTRAPhTHdVIE C",
    "AMERAkYAIeRO DANDAeIGIT EIGHTfFIVEdOUReNINEeONEdSEVENeIXdTHREEeWOdZEROjOUBLE DANDAmLETTER Ab",
    "BAcCHUdDAaIdEaAcHAIbOdKEAAEeHAIdOcLAaNdMAEMdIMdNGIcINdOaLbOcPAbHIdRIbOcSHIdTAbEKcHEAeWAcYOmU",
    "CH GREATER-THANmLESS-THANmLTANI LETTER AbBAbHAdCAbHAdDAbDAbDAcHAdHAdEbGAbHAdHAcIbJAbJAdKAbHA",
    "dLAcMAcNAbNAcYAdPAbHAdRAbHAcRAdSAcTAbHAcTAbHAeUbVAcYAjSECTION MARKqIMAPdPLE MUSICAL NOTESpIC",
    "ATION SIGNa IN DOUBLE CIRCLEnLEFT HALF CIRCLEqRIGHT HALF CIRCLErTRIANGLElWITH DOT ABOVEjUNDE",
    "RBARsXlSETa MULTIPLICATIONoUNIONmSHROOMfIC FLAT SIGNjNATURAL SIGNmSHARP SIGNlAL KEYBOARDa WI",
    "TH JACKStNOTEeSCOREeYMBOL ARPEGGIATO DOWNeUPnBEGIN BEAMePHRASEgSLUReTIEiRACEbKETfEATH MARKiV",
    "EbISa RESTlC CLEFfAESURAgIRCLE X NOTEHEADqLIMACUSfVISeUSTER NOTEHEAD BLACKfWHITEvODAcMBINING",
    " ACCENTa-STACCATOoUGMENTATION DOTqBENDeDOITcUBLE TONGUElWN BOWiFLAG-1b2b3b4b5eIPeHARMONICiLO",
    "UREfMARCATOa-STACCATOqRIPdSMEAReNAP PIZZICATOnPRECHGESANG STEMqTACCATISSIMOgOgEMeTENUTOfREMO",
    "LO-1b2b3hIPLE TONGUEnUP BOWnMON TIMEkRESCENDOhOIXeUT TIMEiDA CAPOfL SEGNOhMPa ALLgSHED BARLI",
    "NEnECRESCENDOjGREE SLASHlOUBLE BARLINEhFLATeSHARPlRUM CLEF-1b2lEIGHTH NOTEeRESTkND BEAMeOF S",
    "TIMMEjPHRASEgSLUReTIEhF CLEFa OTTAVA ALTAeBASSAsERMATAa BELOWmINAL BARLINEkGERED TREMOLO-1b2",
    "b3qVE-LINE STAFFoLAT DOWNeUPgORTEdUR-LINE STAFFkSTRING FRETBOARDuUSA BLACKfWHITEkG CLEFa OTT",
    "AVA ALTAeBASSAsLISSANDO DOWNeUPlRACE NOTE NO SLASHiSLASHoEGORIAN C CLEFgF CLEFqHALF NOTEePED",
    "AL MARKkRESThUPTSTIMMElINVERTED TURNnKIEVAN C CLEFgEIGHTH NOTE STEM DOWNeUPsND OF PIECEmFINA",
    "L NOTEjLAT SIGNjHALF NOTEjQUARTER NOTE STEM DOWNeUPuRECITATIVE MARKpWHOLE NOTEqORONfLEFT REP",
    "EAT SIGNpONGAa IMPERFECTA RESTpPERFECTA RESTtMAXIMAfEZZOeINIMAa BLACKfRESTkOON NOTEHEAD BLAC",
    "KfWHITEsULTI RESTfPLE MEASURE RESTvNATURAL DOWNeUPjEBENSTIMMEkOTEHEAD BLACKnULL NOTEHEADnONE",
    " HUNDRED TWENTY-EIGHTH NOTEeRESTzc-LINE STAFFnRNAMENT STROKE-1a0b1c2b3b4b5b6b7b8b9qTTAVA ALT",
    "AeBASSAmPARENTHESIS NOTEHEADtEDAL MARKeUP MARKlS SUBPUNCTISnIANOeLUS NOTEHEADmODATUSfRRECTUS",
    "a FLEXUSqQUARTER NOTEeRESTeTONE FLATeSHARPqINDICESIMA ALTAeBASSAsREPEAT DOTSfED FIGURE-1b2b3",
    "pVERSE FINAL BARLINEuIGHT REPEAT SIGNpNFORZANDOlSCANDICUSa FLEXUSpEGNOdMIBREVIS BLACKfRESTeW",
    "HITEmMINIMA BLACKfRESTeWHITEpHARP DOWNeUPgORT BARLINEmINGLE BARLINEmX-LINE STAFFkSTRING FRET",
    "BOARDrTEENTH NOTEeRESTkY-FOURTH NOTEeRESTqORIdQUARE BbNOTEHEAD BLACKfWHITEuUBITOgTEMPUS IMPE",
    "RFECTUM CUM PROLATIONE IMPERFECTAa DIMINUTION-1b2b3xPERFECTAzkPERFECTUM CUM PROLATIONE IMPER",
    "FECTAkPERFECTAa DIMINUTION-1zzcHIRTY-SECOND NOTEeRESTqREE-LINE STAFFpORCULUSa RESUPINUSrRaIA",
    "NGLE NOTEHEAD DOWN BLACKfWHITEkLEFT BLACKfWHITEkRIGHT BLACKfWHITElUP BLACKfRIGHT BLACKfWHITE",
    "lWHITEs-ROUND NOTEHEAD DOWN BLACKfWHITEziURNa SLASHfUPgWO-LINE STAFFoVIRGAeOID NOTEHEADnWHOL",
    "E NOTEeRESTjITH FINGERNAILSqX NOTEHEADkZpVScWbYANMAR CONSONANT SIGN MEDIAL HAcRAcWAcYAiON ME",
    "DIAL LAcMAcNAnSHAN MEDIAL WAzeDIGIT EIGHTfFIVEdOUReNINEeONEdSEVENeIXdTHREEeWOdZEROkLETTER Aa",
    "ITON RAhUcBAbHAdCAbHAdDAbDAbHAdHAdEaASTERN PWO KAREN GHWAeNNAdYWAvGAbHAcREAT SAiHAcIaIcJAbHA",
    "dKAbHAaMTI CAbHAdDDAbHAdHAdFAcGAcHAbHAdJAbHAdLLAdNAbYAdRAcSAcTTAbHAeXAcZAjLAbLAdMAbON BBAbEd",
    "EbJHAdNGAhNAbGAcNAbYAdYAdObPAbHAdRAbUMAI PALAUNG FAqSAbGAW KAREN SHAnHAaN AbBAbHAdCAbHAdDAcF",
    "AcGAbHAdHAcJHAdKAbHAdNAbNAcYAdPHAdTHAdZAfWE PALAUNG CHAdSHApSAdTAaI LAING BAbHAdDAbDAbHAdHAd",
    "FAcGAbHAdJAbHAdLLAdNNAcYAmHAcTAbHAeUaUcVOCALIC LaLcRaRkWAbESTERN PWO KAREN PWAdTHAvYAiOGOGRA",
    "M KHAMTI HMcOAYdQNsMODIFIER LETTER KHAMTI REDUPLICATIONuSHAN REDUPLICATIONzjSHAN DIGIT EIGHT",
    "fFIVEdOUReNINEeONEdSEVENeIXdTHREEeWOdZEROoIGN ANUSVARAhSATeDOT BELOWjKHAMTI TONE-1b3nLITTLE ",
    "SECTIONoPAO KAREN TONEoRUMAI PALAUNG TONE-5uSECTIONgHAN COUNCIL EMPHATIC TONEnTONE-2b3oSAWdT",
    "ONE-2b3b5b6lTAI LAING TONE-2b5qVIRAMAeSARGAhWESTERN PWO KAREN TONE-1b2b3b4b5zdYMBOL AFOREMEN",
    "TIONEDnITON EXCLAMATIONlONEdTWOjCOMPLETEDjGENITIVEiLOCATIVEiSHAN EXCLAMATIONlONEpTAI LAING D",
    "IGIT EIGHTfFIVEdOUReNINEeONEdSEVENeIXdTHREEeWOdZEROtONE MARK SGAW KAREN HATHIfKE PHOzcVOWEL ",
    "SIGN AAbIaTON AaIiEa ABOVEhGEBA KAREN ImIaIcKAYAH EEcOEcUhMON IIcOfSGAW KAREN EUmHAN AAcEa A",
    "BOVEhFINAL YmTALL AAhUaUcVOCALIC LaLcRaRkWESTERN PWO KAREN EUcUEzoN-ARY CIRCLED DOT OPERATOR",
    "mPLUS OPERATORnTIMES OPERATORvOPRODUCTjINTERSECTIONmLOGICAL ANDdORkPRODUCThSQUARE INTERSECTI",
    "ON OPERATORvUNION OPERATORuUMMATIONjTIMES OPERATORoUNIONa OPERATOR WITH DOTdPLUSyWHITE VERTI",
    "CAL BARxABATAEAN CRUCIFORM NUMBER FOURvLETTER ALEPHeYINeBETHeDALETHgFINAL ALEPHfBETHeHEcKAPH",
    "eLAMEDHgMEMdNUNdSHINeYODHkGIMELfHEaTHeKAPHeLAMEDHgMEMdNUNdPEcQOPHeRESHeSADHEdMEKHfHINeTAWcET",
    "HeWAWdYODHeZAYINmNUMBER FIVEdOUReONEa HUNDREDlTENcHREEeWENTYeOrLAdIL POLISHiRA SIGNiKbME BAD",
    "GEiNDaINAGARI HEADSTROKEkLETTER AaAbIbUcBAbHAdCAbHAdDAbDAbHAdHAdEbGAbHAdHAcIaIcJAbHAdKAbHAdL",
    "AbLAdMAcNAbGAcNAcYAdObPAbHAdRAbRAdSAbHAcSAdTAbHAcTAbHAeUaUcVAbOCALIC RaRkYAjSIGN ANUSVARAhVA",
    "GRAHAiSIDDHAMhVIRAMAeSARGAmVOWEL SIGN AAbIbUcEbIaIcObPRISHTHAMATRA EpUaUcVOCALIC RaRzgRROW N",
    "O-BREAK SPACEtTIONAL DIGIT SHAPESmPARKlUSEATED FACEmZAR AMULETlBHbSPdECKTIEfGATED DOUBLE VER",
    "TICAL BAR DOUBLE RIGHT TURNSTILEzuIVE ACKNOWLEDGElCIRCLED DIGIT ZEROkLATIN CAPITAL LETTER Ab",
    "BbCbDbEbFbGbHbIbJbKbLbMbNbObPbQbRbSbTbUbVbWbXbYbZwNUMBER EIGHTEENhLEVENgFIFTEENgOURTEENiNINE",
    "TEENiSEVENTEENiIXTEENhTHIRTEENhWELVEdNTYnSQUAREgTRIANGLEqDIAGONAL CROSSfDIAMONDhMIDDLE RIGHT",
    " TO LOWER CENTREzmSQUARED ABcCROSS MARKkICcLATIN CAPITAL LETTER AbBbCbDbEbFbGbHbIbJbKbLbMbNb",
    "ObPbQbRbSbTbUbVbWbXbYbZwPAcQUESTION MARKnSAcWCrITHER A SUBSET OF NOR EQUAL TOuPERSET OF NOR ",
    "EQUAL TOzPPROXIMATELY NOR ACTUALLY EQUAL TOzkGREATER-THAN NOR EQUAL TOfIVALENT TOnLESS-THANz",
    "bLESS-THAN NOR EQUAL TOfIVALENT TOnGREATER-THANzhLbPTUNEa FORM TWOoRD FACEhSSUSdT WITH EGGSk",
    "ING DOLLSlUTERcRAL CHESS BISHOPa ROTATED NINETY DEGREESoTWO HUNDRED SEVENTY DEGREESzrEQUIHOP",
    "PERa ROTATED NINETY DEGREESziKINGa ROTATED NINETY DEGREESoTWO HUNDRED SEVENTY DEGREESzoNIGHT",
    "a ROTATED FORTY-FIVE DEGREESsNINETY DEGREESoONE HUNDRED THIRTY-FIVE DEGREESzgTHREE HUNDRED F",
    "IFTEEN DEGREESzdWO HUNDRED SEVENTY DEGREESpTWENTY-FIVE DEGREESzvPAWNa ROTATED NINETY DEGREES",
    "oTWO HUNDRED SEVENTY DEGREESzpQUEENa ROTATED NINETY DEGREESoTWO HUNDRED SEVENTY DEGREESzqROO",
    "Ka ROTATED NINETY DEGREESoTWO HUNDRED SEVENTY DEGREESzpTURNED BISHOPgKINGdNIGHTgPAWNeQUEENfR",
    "OOKrFACEkW LINEeMOON SYMBOLgWITH FACEoSHEQEL SIGNlTAI LUE DIGIT EIGHTfFIVEdOUReNINEeONEdSEVE",
    "NeIXdTHREEeWOdZEROkLETTER FINAL BbDbKbMbNaGcVhHIGH BAcDAcFAcHAcKAbVAdLAcMAcNAbGAdPAbHAdQAcSA",
    "bUAdTAbHAcSAdVAcXAbVAdYAhLOW BAcDAcFAcHAcKAbVAdLAcMAcNAbGAdPAbHAdQAcSAbUAdTAbHAcSAdVAcXAbVAd",
    "YAnSIGN LAEaVjTHAM DIGIT ONEnONE MARK-1b2lVOWEL SIGN AAaYcEbYcEbIIbYcOaAaYcYcUaEaYcUbYcVOWEL",
    " SHORTENERzkA ABBREVIATION SIGNrCOMMAfDANDAeIGIT EIGHTfFIVEdOUReNINEeONEdSEVENeIXdTHREEeWOdZ",
    "EROjOUBLE COMMAfDANDAmGAP FILLERkINSERTION SIGNoLETTER AaAbIbUcBAbHAdCAbHAdDAbDAbHAdHAdEbGAb",
    "HAdHAcIaIcJAbHAdKAbHAdLAbHAdMAbHAdNAbGAbHAdHAcNAcYAbHAeObPAbHAdRAbHAdSAbHAcSAdTAbHAcTAbHAeUa",
    "UcVEDIC ANUSVARAnOCALIC LaLcRaRkWAcYAjOMcPLACEHOLDER MARKqSANDHI MARKkIDDHIeGN ANUSVARAhVAGR",
    "AHAiCANDRABINDUlFINAL ANUSVARAoJIHVAMULIYAlNUKTAfUPADHMANIYAlVIRAMAeSARGAmVOWEL SIGN AAbIbUc",
    "EbIaIcObUaUcVOCALIC LaLcRaRxLINE LEFTeRIGHTkSPAPERhXT LINEePAGEiIGHT WITH STARSoNJAeKO COMBI",
    "NING DOUBLE DOT ABOVEqLONG DESCENDING TONEpHIGH TONEjLOW TONEiRISING TONEqNASALIZATION MARKr",
    "SHORT HIGH TONEjLOW TONEiRISING TONEyMAfDANTAYALANjIGIT EIGHTfFIVEdOUReNINEeONEdSEVENeIXdTHR",
    "EEeWOdZEROjOROME SIGNlEXCLAMATION MARKqHIGH TONE APOSTROPHEuLAJANYALANjETTER AbBAcCHAdDAaGBA",
    "SINNAkEaEcFAcGBAdHAcIbJAbONA CHAdJAcRAhKAcLAcMAcNaAa WOLOSOiYAa WOLOSOkOaOcPAcRAbRAdSAcTAcUb",
    "WAcYAiOW TONE APOSTROPHEtSYMBOL GBAKURUNENkOO DENNENqTAMAN SIGNnLbNBSPeO BICYCLEShREAK HEREk",
    "ENTRYa SIGNkMOBILE PHONESnONE UNDER EIGHTEEN SYMBOLzPEDESTRIANSkIRACYgSMOKING SYMBOLp-BREAK ",
    "SPACEmMINAL DIGIT SHAPESqSMA SIGNkN-BREAKING HYPHENpPOTABLE WATER SYMBOLvFORKINGiRaDIC MARK ",
    "SIGNnMAL SUBGROUP OFa OR EQUAL TOzcTH EAST AND SOUTH WEST ARROWtRROWa AND SOUTH EAST ARROWuC",
    "ROSSING NORTH WEST ARROWqSOUTH EAST ARROWzWITH HOOKpBLACK ARROWlDOUBLE ARROWmPOINTING BUDdLE",
    "AFeVINE LEAFsSANS-SERIF ARROWqTRIANGLE-HEADED ARROWa TO BARzdWHITE ARROWqINDIC FRACTION ONE ",
    "EIGHTHgHALFeQUARTERhSIXTEENTHnTHREE QUARTERSiSIXTEENTHSzPLACEHOLDER MARKqQUANTITY MARKkRTER ",
    "MARKmRUPEE MARKqWEST AND SOUTH EAST ARROWtRROWa AND NORTH EAST ARROWuCROSSING NORTH EAST ARR",
    "OWzTO CORNERgLONG BARlWITH HOOKpBLACK ARROWlDOUBLE ARROWmPOINTING BUDdLEAFeVINE LEAFsSANS-SE",
    "RIF ARROWqTRIANGLE-HEADED ARROWa TO BARzdWHITE ARROWrEAST-POINTING AIRPLANEzSEcT A SUBSET OF",
    "hPERSET OFmLMOST EQUAL TOoN ELEMENT OFmSYMPTOTICALLY EQUAL TOxCHECK MARKkEQUAL TOfIVALENT TO",
    "nGREATER-THANmIDENTICAL TOmLESS-THANjNORMAL SUBGROUP OFa OR EQUAL TOzfPARALLEL TOlSIGNdQUARE",
    " IMAGE OF OR EQUAL TOuORIGINAL OF OR EQUAL TOzfTILDEeRUEfCHED LEFT SEMICIRCLE WITH THREE DOT",
    "SzfOWER RIGHT-SHADOWED WHITE RIGHTWARDS ARROWzsRIGHT SEMICIRCLE WITH THREE DOTSzhUPPER RIGHT",
    "-SHADOWED WHITE RIGHTWARDS ARROWzxEa PADbGEfBOOKa WITH DECORATIVE COVERzeULaLcMBER EIGHTEEN ",
    "FULL STOPrLEVEN FULL STOPqFIFTEEN FULL STOPqOURTEEN FULL STOPsNINETEEN FULL STOPsSEVENTEEN F",
    "ULL STOPsIGNcXTEEN FULL STOPrTEN FULL STOPmHIRTEEN FULL STOPrWELVE FULL STOPnNTY FULL STOPuE",
    "RO SIGNjSHU CHARACTER-1B170b1b2b3b4b5b6b7b8b9bAbBbCbDbEbFc80b1b2b3b4b5b6b7b8b9bAbBbCbDbEbFc9",
    "0b1b2b3b4b5b6b7b8b9bAbBbCbDbEbFcA0b1b2b3b4b5b6b7b8b9bAbBbCbDbEbFcB0b1b2b3b4b5b6b7b8b9bAbBbCb",
    "DbEbFcC0b1b2b3b4b5b6b7b8b9bAbBbCbDbEbFcD0b1b2b3b4b5b6b7b8b9bAbBbCbDbEbFcE0b1b2b3b4b5b6b7b8b9",
    "bAbBbCbDbEbFcF0b1b2b3b4b5b6b7b8b9bAbBbCbDbEbFd200b1b2b3b4b5b6b7b8b9bAbBbCbDbEbFc10b1b2b3b4b5",
    "b6b7b8b9bAbBbCbDbEbFc20b1b2b3b4b5b6b7b8b9bAbBbCbDbEbFc30b1b2b3b4b5b6b7b8b9bAbBbCbDbEbFc40b1b",
    "2b3b4b5b6b7b8b9bAbBbCbDbEbFc50b1b2b3b4b5b6b7b8b9bAbBbCbDbEbFc60b1b2b3b4b5b6b7b8b9bAbBbCbDbEb",
    "Fc70b1b2b3b4b5b6b7b8b9bAbBbCbDbEbFc80b1b2b3b4b5b6b7b8b9bAbBbCbDbEbFc90b1b2b3b4b5b6b7b8b9bAbB",
    "bCbDbEbFcA0b1b2b3b4b5b6b7b8b9bAbBbCbDbEbFcB0b1b2b3b4b5b6b7b8b9bAbBbCbDbEbFcC0b1b2b3b4b5b6b7b",
    "8b9bAbBbCbDbEbFcD0b1b2b3b4b5b6b7b8b9bAbBbCbDbEbFcE0b1b2b3b4b5b6b7b8b9bAbBbCbDbEbFcF0b1b2b3b4",
    "b5b6b7b8b9bAbBpITERATION MARKsT AND BOLTlYIAKENG PUACHUE HMONG CIRCLED CAkDIGIT EIGHTfFIVEdO",
    "UReNINEeONEdSEVENeIXdTHREEeWOdZEROkLETTER AaAcCAcDAbLAdEaEcFAcGAcHAaHdIbKAcLAcMAbLAdNAbCAcKA",
    "cPAbLAdQAcRAcTAbSAcXAdYAdOaOcPAbLAdQAcRAbRAdSAcTAbSAcXAdUbVAcWbXAbYAdYAcZAiOGOGRAM NYAJnSIGN",
    " FOR ANIMALgINVERTEBRATEmLOCATIONiPERSONgTHINGjXW XWjYLLABLE LENGTHENERtTONE-BbDbGbJbMbSbVze",
    "OBJECT REPLACEMENT CHARACTERzbLIQUE ANGLE OPENING DOWNeUPqHYPHENmSERVER EYE SYMBOLsCR AMOUNT",
    " OF CHECKpBELT BUCKLEkOW TIEgRANCH BANK IDENTIFICATIONzbCHAIReUSTOMER ACCOUNT NUMBERxDASHdOU",
    "BLE BACKSLASHqFORKeHOOKeINVERTED FORKpTAGONAL SIGNlOPUSgDENdFFICE BUILDINGoGHAM FEATHER MARK",
    "mLETTER AILMeBEITHfCEIRTeOLLeDAIReEABHADHfDHADHfMHANCHOLLlFEARNfGORTeIFINdODHADHhLUISeMUINeN",
    "GEADALgIONeONNcRcPEITHfRUISeSAILdTRAIFgTINNEfUATHdILLEANNhRjREVERSED FEATHER MARKvSPACE MARK",
    "oONEKfHM SIGNhIL DRUMhK HAND SIGNlL CHIKI AHADeDIGIT EIGHTfFIVEdOUReNINEeONEdSEVENeIXdTHREEe",
    "WOdZEROkGAAHLAA TTUDDAAGqLETTER AAJbKbMbWcGbLbNGcTcEDDcNbPbRRdIHbNYcRbScLAaAcEbIbObUcOBbHbTT",
    "cVcUCbDbNNcYjMU TTUDDAGi-GAAHLAA TTUDDAAGtPHAARKAAhUNCTUATION DOUBLE MUCAADnMUCAADsRELAAmD C",
    "HINESE HOOK MARKjITERATION MARKwHUNGARIAN CAPITAL LETTER AaAbKbMBcNDdCLOSE EhEaBbCaHbScDbEbF",
    "bGaYcHbJbKbLaYcMaPcNaCbTa-SHAPED SIGNnYcPbRbSaZcTaYcVbZaSdIaIcNIKOLSBURG OEcUEnOaEEcOcRUDIME",
    "NTA OEcUEmSHORT ERiUaNKcSbUrNUMBER FIFTYdVEeONEa HUNDREDhTHOUSANDmTENkSMALL LETTER AaAbKbMBc",
    "NDdCLOSE EhEaBbCaHbScDbEbFbGaYcHbJbKbLaYcMaPcNaCbTa-SHAPED SIGNnYcPbRbSaZcTaYcVbZaSdIaIcNIKO",
    "LSBURG OEcUEnOaEEcOcRUDIMENTA OEcUEmSHORT ERiUaNKcSbUzITALIC LETTER AbBEcCHEdDEcEaFbKScLbMbN",
    "bRaScSaHbSdHEcIaIcKAbEbHEcUcNORTHERN TSEmObPEbHEdSHEcOUTHERN TSEmTEbHEdUaUcVEcYEcZEjNUMERAL ",
    "FIFTYdVEeONEdTENsKEYdNORTH ARABIAN LETTER AINcLEFeBEHdDADbLdES-1b2b3eFEHdGEEMdHAINfHAHcEHdKA",
    "FcHAHeLAMdMEEMeNOONeQAFdREHdSADdTAHcEHcHALcEHeWAWdYEHdZAHbINlNUMBER ONEdTENcWENTYzcPERMIC LE",
    "TTER ANcBURdCHERYfDOIcZHOIdITAfEaFcGAIdHAcIaAbEcKOKEeLEIdMENOEfNENOEfOaOcPEEIeREIdSHCHOOIfOO",
    "IeIIdTAIcSIUeUbVERcOOIeYAaTcERaIbUdRYcUcZATAdHOIpSIAN NUMBER HUNDREDhONEdTENcWENTYeOkSIGN Aa",
    "URAMAZDAAa-2cHAmBAaGAdUUMISHhCAcDAaHYAAUSHa-2kIbUcFAcGAbUcHAcIbJAbIcKAbUcLAcMAbIbUcNAbUcPAcR",
    "AbUcSAbHAcSAdTAbHAcUcUbVAbIcXAbSHAAYATHIYAmYAcZAhWORD DIVIDERqONAL COMPUTERrSOGDIAN FRACTION",
    " ONE HALFrLETTER ALEPHdTERNATE AYINnYINeBETHeFINAL ALEPHfBETHeHEcNUNa WITH VERTICAL TAILwSAD",
    "HEa WITH VERTICAL TAILyTAWa WITH VERTICAL TAILzdGIMELfHEaTHeKAPHeLAMEDHgMEMdNUNdPEcRESH-AYIN",
    "-DALETHqSADHEdMEKHfHINeTAWdWAWdYODHeZAYINlIGATURE AYIN-DALETHuNUMBER FIVEdOUReONEa HUNDREDlT",
    "ENcHIRTYeREEeWENTYeOqUTH ARABIAN LETTER ALEFdYNdBETHeDALETHfHADHEdLETHhFEcGHAYNeIMELfHEaTHeK",
    "APHdHETHfLAMEDHgMEMdNUNdQOPHeRESHeSADHEdMEKHeTcHINeTAWcETHdHAWcETHfWAWdYODHeZAYNlNUMBER FIFT",
    "YfONEhERIC INDICATORzgTURKIC LETTER ORKHON AaBbDbEBbDbGbKbLbNbRbSbTbYcGbLbNbQbRbSaHcTbYcBASH",
    "eECbLTcMbNCbGbTbYcPbSHcZcIaCbQcOaEaKcPbQbTjYENISEI AaBbDbEaBbGbKbNaGcTbYcGbLbNGcQbRbSHcTbYcE",
    "aCbNCbTbYcSHcZcIaQcOEaKcQyUYGHUR COMBINING DOT ABOVEfBELOWjTWO DOTS ABOVEfBELOWyLETTER ALEPH",
    "fBETHeFINAL HETHkGIMEL-HETHkKAPHeLAMEDHfESHeMEMdNUNdPEcRESHeSADHEdMEKHfHINeTAWdWAWdYODHeZAYI",
    "NmPUNCTUATION BARdFOUR DOTSjTWO BARSeDOTSzdER ADULTfMANdWOMANjIVEeM SYMBOLiN WITH EXCLAMATIO",
    "N MARK WITH LEFT RIGHT ARROW ABOVEzzCOMING AUTOMOBILEkBUSdFIRE ENGINElPOLICE CARkTAXIlE BUTT",
    "ON MOUSEmDOT LEADERgOVER TWO DOTS PUNCTUATIONzf-PIECE SWIMSUITqIONePEN BOOKcXdCENTRE ASTERIS",
    "KiBLACK STARkCROSSfTEARDROP-SPOKED ASTERISKzgFILE FOLDERkOLDERgHANDS SIGNkLOCKeMAILBOX WITH ",
    "LOWERED FLAGmRAISED FLAGySUBSETePERSETj-CIRCUIT-OUTPUT H-TYPE SYMBOLnL-TYPE SYMBOLzdOUTLINED",
    " RIGHTWARDS ARROWzcRATING SYSTEM COMMANDwHIUCHUShPOSITIONiTICAL DISCa ICONnON KEYjR WITH DOT",
    " INSIDEqANGE BOOKeHEARThUTANhIGINAL OFiYA AI LENGTH MARKnU LENGTH MARKoDIGIT EIGHTfFIVEdOURe",
    "NINEeONEdSEVENeIXdTHREEeWOdZEROkFRACTION ONE EIGHTHgHALFeQUARTERhSIXTEENTHnTHREE QUARTERSiSI",
    "XTEENTHSzISSHARgLETTER AaAbIbUcBAbHAdCAbHAdDAbDAbHAdHAdEbGAbHAdHAcIaIcJAbHAdKAbHAdLAbLAdMAcN",
    "AbGAcNAcYAdObPAbHAdRAbHAcRAdSAbHAcSAdTAbHAcTAbHAeUaUcVAbOCALIC LaLcRaRkWAcYAbYAkSIGN ANUSVAR",
    "AhVAGRAHAiCANDRABINDUlNUKTAfOVERLINEiVIRAMAeSARGAmVOWEL SIGN AAbIbUcEbIaIcObUaUcVOCALIC LaLc",
    "RaRzNATE LEFT PARENTHESISqRIGHT PARENTHESISwTHODOX CROSSnSAGE CAPITAL LETTER AaHbIaNdBRAdCHA",
    "dDHAdEaHCHAdKAcPAcTAbSAeINdGHAdHAbYAdIbKAbHAcYAdLAcMAcNAcOaINdPAcSAbHAdTAbSAbHAeUbWAcZAbHAsS",
    "MALL LETTER AaHbIaNdBRAdCHAdDHAdEaHCHAdKAcPAcTAbSAeINdGHAdHAbYAdIbKAbHAcYAdLAcMAcNAcOaINdPAc",
    "SAbHAdTAbSAbHAeUbWAcZAbHAuCbMANYA DIGIT EIGHTfFIVEdOUReNINEeONEdSEVENeIXdTHREEeWOdZEROkLETTE",
    "R AaAbLEFeBAcCAYNeDEELdHAdEaEcFAcGAcHAcIbJAcKAAFdHAdLAANeMIINeNUUNeOaOcQAAFeRAcSAbHIINfTAcUb",
    "WAWdXAcYAqTTERcOMAN SIYAQ ALTERNATE NUMBER EIGHTfFIVEdOURa HUNDREDmNINEeSEVENeIXa HUNDREDlTE",
    "Na THOUSANDlHREEeWOa THOUSANDzeFRACTION ONE HALFeSIXTHsMARRATANiNUMBER EIGHTa HUNDREDhTHOUSA",
    "NDjYa THOUSANDpFIFTYa THOUSANDmVEa HUNDREDhTHOUSANDmORTYa THOUSANDmURa HUNDREDhTHOUSANDnNINE",
    "a HUNDREDhTHOUSANDjTYa THOUSANDpONEa HUNDREDhTHOUSANDmSEVENa HUNDREDhTHOUSANDjTYa THOUSANDpI",
    "Xa HUNDREDhTHOUSANDjTYa THOUSANDoTENa THOUSANDlHIRTYa THOUSANDnREEa HUNDREDhTHOUSANDnWENTYa ",
    "THOUSANDnOa HUNDREDhTHOUSANDzhUNCE SIGNiTBOX TRAYiLINED BLACK STARkGREEK CROSSlLATIN CROSSlW",
    "HITE STARsVERHEATED FACElLAPaPING BLACK SQUARESnWHITE AND BLACK SQUARESrSQUARESuINEhWLcXbYST",
    "ERgPACKAGEfDaDING CHARACTERpGEa FACING UPjWITH CIRCLED TEXTlURLkRbScODAeHAWH HMONG CLAN SIGN",
    " FAJdHAMbWJeKHABdOOcWMdLAUJdISdMUASePHABeTHOJdSABcHEEJeWBeVAJcWJdXYOOJfYAJcEEGnONSONANT AUcC",
    "AUcHAUeHAUcLAUdNAUeLAUdMAUdNAUcCHAUeKAUdLAUdTHAUdSAUfPLHAUfQHAUeRAUdVAUdXAUdYAUnDIGIT EIGHTf",
    "FIVEdOUReNINEeONEdSEVENeIXdTHREEeWOdZEROkMARK CIM HOMdKEScHAVeSObUAMeTAUMdUBmNUMBER HUNDRED ",
    "MILLIONSjSiMILLIONSiTEN BILLIONSiTHOUSANDSkSdRILLIONSqSIGN AVcCIM CHEEMeUAM TSHOOJlHAIS LUS ",
    "NTOG NTOGsNRES TOSiPUB DAWBiTSOV ROGhXWVa CHWVnHLIcNUBeIB YAMgLOSdMEEJ SUABeTSEEBjUSdNQIGdTU",
    "JeTAUcHIRD-STAGE HLIoXHEEJ CEEVlVOS FEEMeLUBdNRUAeSEEVeTHIABdOMdSHAB CEEBoXAUSdIABdYEEM FAIB",
    "eNTXIVfRHOdTOVhOOeZWJ THAJnVOWEL KAABbVcBbIBbVcUBbVcVbWBbVdEBbEBbVcVcIABbVcBbVcOBbOBbVcVcUAB",
    "bVcBbVcWBbVuLLASdM BRANCHgDOWN HANDjTREEeUP HANDiS UP TOGETHERnYRENE LEFT-POINTING FLEURONtT",
    "TER ALEPHeYINeBETHeDALETHgFINAL NUNjGIMELfHEaTHeKAPHeLAMEDHgMEMdNUNdPEcQOPHeRESHeSADHEdMEKHf",
    "HINeTAWcETHeWAWdYODHeZAYINmNUMBER FIVEdOUReONEdTENcHREEeWENTYeOkRIGHT-POINTING FLEURONzfNCAK",
    "ESfDA FACEiPERCLIPhRACHUTEfGRAPH SEPARATORkOScUS MARKmLLEL TOcWITH HORIZONTAL STROKErTILDE O",
    "PERATORzENTHESIZED DIGIT EIGHTfFIVEdOUReNINEeONEdSEVENeIXdTHREEeWOjHANGUL CHIEUCHa AiIEUCa A",
    "bUhHIEUHa AhIEUNGa AhKHIEUKHa AiIYEOKa AiMIEUMa AhNIEUNa AhPHIEUPHa AiIEUPa AhRIEULa AhSIOSa",
    " AgTHIEUTHa AiIKEUTa ApIDEOGRAPH ALLIANCEiCALLdONGRATULATIONoEARTHeIGHTeNTERPRISEkFESTIVALhI",
    "NANCIALhREcVEdOUReHAVEeLABORfMETALeOONeNAMEdINEeONEdREACHdPRESENThSOURCEfTeSELFcVENeIXcOCIET",
    "YgPECIALgTOCKdUDYeUNbPERVISEjTENcHREEeWOdWATEReOODoKOREAN CHARACTER O HUdJEONwLATIN CAPITAL ",
    "LETTER AbBbCbDbEbFbGbHbIbJbKbLbMbNbObPbQbRbSbTbUbVbWbXbYbZqSMALL LETTER AbBbCbDbEbFbGbHbIbJb",
    "KbLbMbNbObPbQbRbSbTbUbVbWbXbYbZuNUMBER EIGHTEENhLEVENgFIFTEENgOURTEENiNINETEENiSEVENTEENiIXT",
    "EENhTENcHIRTEENhWELVEdNTYyROTdT ALTERNATION MARKrIAL DIFFERENTIALmLINE BACKWARDiDOWNeFORWARD",
    "hUPiLY-RECYCLED PAPER SYMBOLzcNERSHIP SIGNmY POPPERkSSED SYMBOLiNGER SHIPkIVE-PULL-DOWN-OUTP",
    "UT SYMBOLsUP-OUTPUT SYMBOLzPORT CONTROLoU CIN HAU GLOTTAL STOPa FINALfVARIANTuLETTER AbBAcCA",
    "bHAdDAcEbFAbINAL KbLbMbNaGcPbTbWbYhGAcHAcIaAcKAbHAdLAcMAcNAbGAdObPAbHAdRAcSAcTAbHAdUaAcVAcZA",
    "iOW-FALLING TONEa FINALfLONGa FINALzcMID-LEVEL TONEa FINALfLONG FINALzRISING TONEa FINALfLON",
    "Ga FINALwSANDHI GLOTTAL STOPa FINALsTONEa FINALfLONGa FINALzhW PRINTSjDFbIcEACE SYMBOLiHbOCK",
    "eNUTSeRcDESTRIANiN OVER STAMPED ENVELOPEwCILdGUINeSIVE FACEjTAGRAMhOPLE HUGGINGmR MILLE SIGN",
    "kSIGNeTEN THOUSAND SIGNsCENT SIGNjFORMING ARTSmMANENT PAPER SIGNrPENDICULARa WITH SrSEVERING",
    " FACEmON BOWING DEEPLYnCLIMBINGiDOING CARTWHEELpFROWNINGiIN LOTUS POSITIONoSTEAMY ROOMoRAISI",
    "NG BOTH HANDS IN CELEBRATIONziWITH BALLdLOND HAIRkCROWNfFOLDED HANDSmHEADSCARFjPOUTING FACEs",
    "AL COMPUTERnPECTIVEjSETA SIGNiO SIGNhTRI DISHjHAGS-PA DOUBLE HEAD MARKqLETTER AaLTERNATE YAl",
    "SPIRATED FAmBAcCAaNDRABINDUkHAdDAbDAcZAdEaEcFAcGAbGAdHAcIbJAcKAbHAdLAcMAcNAbGAcNAcYAdObPAbHA",
    "dQAcRAcSAbHAcMALL AhTAbHAcSAbHAdTAbHAeUbVOICED HAeLESS SHAnWAcXAcYAcZAbHAkMARK DOUBLE SHADlS",
    "HADjSINGLE HEAD MARKpUBJOINED LETTER RAcWAcYArPERFIXED LETTER RAzbISTOS DISC SIGN ARROWfBEEa",
    "HIVEgOOMERANGhWcULLS LEGjCAPTIVEfRPENTRY PLANEnTcHILDeLUBdOLUMNeMBaINING OBLIQUE STROKEyDOLI",
    "UMeVEeEAGLEfFLUTEfGAUNTLEThRATERgHELMETfIDEdORNeLIDbLYeMANACLESgTTOCKhOX BACKhPAPYRUSgEDESTR",
    "IANjLANE TREEiUMED HEADlRAMcOSETTEhSAWcHIELDdPdLINGeMALL AXEiTRAINERiTATTOOED HEADmIARAeUNNY",
    "fVINEeWAVY BANDiOMANwILIPPINE DOUBLE PUNCTUATIONsSINGLE PUNCTUATIONzcOENICIAN LETTER AINcLFd",
    "BETdDELTeGAMLeHEaTdKAFdLAMDeMEMdNUNdPEcQOFdROSHeSADEdEMKdHINeTAUcETdWAUdYODdZAIkNUMBER ONEa ",
    "HUNDREDlTENcHREEeWENTYeOkWORD SEPARATORwLUSfICKaUP TRUCKkEbGa FACEeNOSEgLCROW SIGNjE OF POOi",
    "LcNATAdCHED FINGERSkING HANDkE DECORATIONlAPPLEgWHEEL STARlSCESdTOLeTCHFORKa WITH TEE TOPvLA",
    "CARDdE OF INTEREST SIGNnWORSHIPnNCK CONSTANTa OVER TWO PIyYGROUND SLIDEmING CARD ACE OF CLUB",
    "SfDIAMONDSiHEARTSgSPADESnBACKdLACK JOKERlEIGHT OF CLUBSfDIAMONDSiHEARTSgSPADESpFIVE OF CLUBS",
    "fDIAMONDSiHEARTSgSPADESnOOLcUR OF CLUBSfDIAMONDSiHEARTSgSPADESoJACK OF CLUBSfDIAMONDSiHEARTS",
    "gSPADESoKING OF CLUBSfDIAMONDSiHEARTSgSPADESnNIGHT OF CLUBSfDIAMONDSiHEARTSgSPADESqNINE OF C",
    "LUBSfDIAMONDSiHEARTSgSPADESoQUEEN OF CLUBSfDIAMONDSiHEARTSgSPADESpRED JOKERjSEVEN OF CLUBSfD",
    "IAMONDSiHEARTSgSPADESoIX OF CLUBSfDIAMONDSiHEARTSgSPADESnTEN OF CLUBSfDIAMONDSiHEARTSgSPADES",
    "mHREE OF CLUBSfDIAMONDSiHEARTSgSPADESoRUMP-1a0b1b2b3b4b5b6b7b8b9c2a0b1c3b4b5b6b7b8b9gWO OF C",
    "LUBSfDIAMONDSiHEARTSgSPADESnWHITE JOKERwDbUaNGEReS SIGNa ABOVE EQUALS SIGNrIN LEFT HALF CIRC",
    "LEqRIGHT HALF CIRCLErTRIANGLElWITH BLACK TRIANGLEoCIRCUMFLEX ACCENT ABOVExDOT BELOWjSMALL CI",
    "RCLE ABOVErUBSCRIPT TWOnTILDE ABOVEfBELOWw-MINUS SIGNmTOa FORM FIVEdOUReTHREEeWOnMbOCKET CAL",
    "CULATORpLICE CARaS REVOLVING LIGHTuOFFICERmODLEeP DIRECTIONAL FORMATTINGkISOLATEuCORNfRTABLE",
    " STEREOnSEIDONfITION INDICATORpTAL HORNeMARKa FACEmBOXfT OF FOODiABLE WATER SYMBOLqTOdTED PL",
    "ANTkUCHcLTRY LEGiND SIGNhRING LIQUIDlTING CAT FACEiFACEkWER ON SYMBOLh-OFF SYMBOLnSLEEP SYMB",
    "OLlYMBOLlRAYER BEADSkECEDESa ABOVE ALMOST EQUAL TOpEQUALS SIGNlNOT ALMOST EQUAL TOpEQUAL TOm",
    "SINGLE-LINE EQUALS SIGNlNOT EQUAL TOzfBUT NOT EQUIVALENT TOvOR EQUAL TOfIVALENT TOqUNDER REL",
    "ATIONuGNANT MANdPERSONgWOMANlSCRIPTION TAKEnENTATION FORM FOR VERTICAL COLONdMMAfEM DASHgN D",
    "ASHgXCLAMATION MARKqHORIZONTAL ELLIPSIStIDEOGRAPHIC COMMAfFULL STOPvLEFT ANGLE BRACKETnBLACK",
    " LENTICULAR BRACKETyCORNER BRACKETnURLY BRACKETnDOUBLE ANGLE BRACKETuPARENTHESISlSQUARE BRAC",
    "KEToTORTOISE SHELL BRACKETwWHITE CORNER BRACKEToLENTICULAR BRACKETzdOW LINEiQUESTION MARKnRI",
    "GHT ANGLE BRACKETnBLACK LENTICULAR BRACKETyCORNER BRACKETnURLY BRACKETnDOUBLE ANGLE BRACKETu",
    "PARENTHESISlSQUARE BRACKEToTORTOISE SHELL BRACKETwWHITE CORNER BRACKEToLENTICULAR BRACKETeKC",
    "ETzfSEMICOLONjTWO DOT LEADERoWAVY LOW LINEzqTZELeVIOUS PAGElIMEcNCEaSSeT SCREEN SYMBOLoERa I",
    "CONjVACY MESSAGEkTE USE ONEdTWOe-1b2lOBING CANEjHIBITED SIGNmJECTIVEhPERTY LINEjORTIONaAL TO",
    "mSERPINAjSALTER PAHLAVI FOUR DOTS WITH CROSSfDOTsLETTER ALEPHfBETHeDALETHgGIMELfHEaTHeKAPHeL",
    "AMEDHgMEM-QOPHiNUNdPEcSADHEdMEKHfHINeTAWdWAW-AYIN-RESHnYODHeZAYINmNUMBER FOUReONEa HUNDREDlT",
    "ENcHREEeWENTYeOkSECTION MARKmTURNED SECTION MARKzjU1b2bBLIC ADDRESS LOUDSPEAKERyNCTUATION SP",
    "ACElS ELEVATUS MARKtRPLE HEARTjSEdSHPINfT LITTER IN ITS PLACE SYMBOLzfQUADRANT LOWER LEFTeRI",
    "GHTlUPPER LEFTa AND LOWER LEFT AND LOWER RIGHTuRIGHTlUPPER RIGHT AND LOWER LEFTeRIGHTzlRIGHT",
    "a AND LOWER LEFTa AND LOWER RIGHTzvUPLE INTEGRAL OPERATORrPRIMEmRTER NOTEjTERNION INTEGRAL O",
    "PERATORzbESTION EXCLAMATION MARKqMARKfED EQUAL TOrINCUNXgOTATION MARKoRABBITa FACEjCCOONeING",
    " CARdMOTORCYCLEpDICAL SYMBOL BOTTOMrOa BUTTONhACTIVE SIGNoILWAY CARdTRACKkNaBOWeSED BACK OF ",
    "HANDmCOMMAfDOTaTED INTERPOLATION MARKERzcFISTeHANDa WITH FINGERS SPLAYEDpPART BETWEEN MIDDLE",
    " AND RING FINGERSzvINTERPOLATION MARKERuMC SIGNgD SIGNgR SIGNhSQUARElMbTaIOdZOReECEIPTeORD S",
    "EPARATORnREATIONAL VEHICLErYCLED PAPER SYMBOLpING SYMBOL FOR GENERIC MATERIALSrTYPE-1 PLASTI",
    "CSk2 PLASTICSk3 PLASTICSk4 PLASTICSk5 PLASTICSk6 PLASTICSk7 PLASTICSzjD APPLEfGIFT ENVELOPEp",
    "FERENCE MARKmGIONAL INDICATOR SYMBOL LETTER AbBbCbDbEbFbGbHbIbJbKbLbMbNbObPbQbRbSbTbUbVbWbXb",
    "YbZzfSTERED SIGNnJANG CONSONANT SIGN HbNaGcRqLETTER AbBAcCAcDAcGAcHAcJAcKAcLAcMAbBAdNAbDAcGA",
    "bGAdYAbJAePAcRAcSAcTAcWAcYAjSECTION MARKmVIRAMAfOWEL SIGN AIbUcEaAbUcIbObUrLIEVED FACElMINDE",
    "R RIBBONnPLACEMENT CHARACTERtSPONSEfTRICTED LEFT ENTRY-1b2sOOMgTURN LEFTeRIGHTfSYMBOLlVERSE ",
    "CHECKER BOARDnINDEXfLIGHT FOUR POINTED PINWHEEL STARzfNE FEEDjSOLIDUSa OPERATORiPRECEDING SU",
    "BSETqWITH HORIZONTAL STROKEzfTILDE OPERATOR ABOVE LEFTWARDS ARROWpRIGHTWARDS ARROWznD ANGLEa",
    " WITH UNDERBARtCOMMAfDOUBLE PRIMEa QUOTATION MARKuSTROKE NOT SIGNwEMPTY SETjFORKED PARAGRAPH",
    "OSsHAND WITH MIDDLE FINGER EXTENDEDzhNOT SIGNiPILCROW SIGNlRIMEfQUESTION MARKnRAISED HAND WI",
    "TH FINGERS SPLAYEDzgIGHT ANGLEkOTATED FLORAL HEART BULLETzcSANS-SERIF CAPITAL LtEMICOLONjTHU",
    "MBS DOWN SIGNjUP SIGNnILDEa EQUALSlRIPLE PRIMEmVICTORY HANDsOLVING HEARTSpHINOCEROSjIaAL SIG",
    "NhBBONa ARROW DOWN LEFTeRIGHTkLEFT DOWNeUPhRIGHT DOWNeUPiUP LEFTeRIGHTtCE BALLeCRACKERkFLEdG",
    "HT AND LOWER ONE EIGHTH BLOCKwUPPER ONE EIGHTH BLOCKyGER BUBBLEjLEa BRACKETa WITH DOTqDOTTED",
    " SUBSTITUTION MARKERzbSUBSTITUTION MARKERtVARIANT WITH SQUAREtWITH ARCdDOWNWARDS ZIGZAG ARRO",
    "WzhRC GREATER-THAN BRACKETwROW WITH CIRCLED PLUSmSMALL CIRCLExBLACK LENTICULAR BRACKETsTORTO",
    "ISE SHELL BRACKETzdCEILINGgORNER BRACKETnURLY BRACKETa LOWER HOOKkMIDDLE PIECEmUPPER HOOKyDO",
    "TTED SUBSTITUTION BRACKETzUBLE ANGLE BRACKETmRROW WITH ROUNDED HEADxPARENTHESISlQUOTATION MA",
    "RKoWIGGLY FENCEtFISH TAILhVE EIGHTHS BLOCKrLOORfHALF BLACK CIRCLEgSTARiOCKfFOLDERgMEDIUM SHA",
    "DEmRUNNING MANoND TELEPHONE RECEIVERxLOW PARAPHRASE BRACKETwNORMAL FACTOR SEMIDIRECT PRODUCT",
    "zhONE EIGHTH BLOCKmQUARTER BLOCKqPEN SQUARED DOTpUTER JOINkPARENTHESISa EXTENSIONjLOWER HOOK",
    "kUPPER HOOKwRAISED OMISSION BRACKETxS-SHAPED BAG DELIMITERvEMIDIRECT PRODUCTqVEN EIGHTHS BLO",
    "CKsIDEWAYS U BRACKETqNGLE QUOTATION MARKuPEAKERa WITH ONE SOUND WAVEoTHREE SOUND WAVESzcECH ",
    "BUBBLEmQUARE BRACKETa EXTENSIONjLOWER CORNERmUPPER CORNERmWITH DOUBLE STROKEnQUILLfSTROKEgTI",
    "CK IN BOTTOM CORNERnTOP CORNERsUNDERBARzcUBSTITUTION BRACKETuTACKdHIRD WHITE RIGHT POINTING ",
    "INDEXzfOUGHT BUBBLEmREE EIGHTHS BLOCKnQUARTERS BLOCKtORTOISE SHELL BRACKETvRANSPOSITION BRAC",
    "KETtIANGLEa ABOVE LEFT TRIANGLEwULAR ONE QUARTER BLOCKzdVERTICAL BAR WITH QUILLnOX LINErWHIT",
    "E CORNER BRACKETnURLY BRACKETnLENTICULAR BRACKETsPARENTHESISlSQUARE BRACKEToTORTOISE SHELL B",
    "RACKETzcIGGLY FENCEn-FACING ARMENIAN ETERNITY SIGNwFISTeSVASTI SIGNa WITH DOTSzdHANDED INTER",
    "LACED PENTAGRAMzcPOINTING ANGLE BRACKETnCURVED ANGLE BRACKETuDOUBLE ANGLE QUOTATION MARKzcMA",
    "GNIFYING GLASSzSHADED WHITE RIGHTWARDS ARROWzdIDE ARC CLOCKWISE ARROWyTO-LEFT EMBEDDINGjISOL",
    "ATEhMARKeOVERRIDErHAND INTERIOR PRODUCTvWARDS ARROWa ABOVE ALMOST EQUAL TOpREVERSE ALMOST EQ",
    "UAL TOpTILDE OPERATORwSHORT LEFTWARDS ARROWvTILDE OPERATORtND UPPER AND LOWER ONE EIGHTH BLO",
    "CKzlFROM BARa TO BLACK DIAMONDzOVER LEFTWARDS ARROWuTHROUGH GREATER-THANmSUPERSETiXiO BARcLA",
    "CK DIAMONDqWITH CORNER DOWNWARDSqDOTTED STEMjUBLE VERTICAL STROKEwEQUILATERAL ARROWHEADvHOOK",
    "eLARGE TRIANGLE ARROWHEADxOOPeMEDIUM TRIANGLE ARROWHEADzNOTCHED TAILmPLUS BELOWkSMALL EQUILA",
    "TERAL ARROWHEADvTRIANGLE ARROWHEADxTROKEgTAILa WITH DOUBLE VERTICAL STROKEwVERTICAL STROKEyI",
    "P DOWNWARDSjUPWARDSlVERTICAL STROKEv-TAILkBACK-TILTED SHADOWED WHITE ARROWzgLACK ARROWfCIRCL",
    "ED WHITE ARROWyOTTOM SHADED WHITE ARROWzCOMPRESSED ARROWqDASHED ARROWlOUBLE ARROWa FROM BARi",
    "WITH STROKEgVERTICAL STROKEv-TAILkDASH ARROWrFINGER-POST ARROWqRONT-TILTED SHADOWED WHITE AR",
    "ROWziHANDcRPOON OVER LEFTWARDS HARPOONwWITH BARB DOWN ABOVE LEFTWARDS HARPOON WITH BARB DOWN",
    "znBELOW LONG DASHpFROM BARiTO BARhWARDSjUP ABOVE LEFTWARDS HARPOON WITH BARB UPzeONG DASHjRI",
    "GHTWARDS HARPOON WITH BARB DOWNzoFROM BARiTO BARhWARDSyEAVY ARROWfCOMPRESSED ARROWwLEFT-SHAD",
    "ED WHITE ARROWxOPEN-HEADED ARROWrPAIRED ARROWSnQUADRUPLE ARROWpRIGHT-SHADED WHITE ARROWxOCKE",
    "TgSANS-SERIF ARROWpQUARED ARROWkIGGLE ARROWoTOP SHADED WHITE ARROWvRIANGLE ARROWHEADk-HEADED",
    " ARROWa OVER LEFTWARDS TRIANGLE-HEADED ARROWzlTO BARgWITH BOLD SHAFTkDOUBLE HORIZONTAL STROK",
    "ErVERTICAL STROKEwHEAVY SHAFTlLONG TIP DOWNWARDSjUPWARDSqMEDIUM SHAFTmNARROW SHAFTmVERY HEAV",
    "Y SHAFTzcDASHED ARROWmPAIRED ARROWSzbPLE ARROWfDASH ARROWqWO HEADED ARROWn-HEADED ARROW FROM",
    " BARiWITH DOUBLE VERTICAL STROKEwTAILa WITH DOUBLE VERTICAL STROKEwVERTICAL STROKEyRIANGLE A",
    "RROWHEADStVERTICAL STROKEzbTRIPLE DASH ARROWzdWAVE ARROWjHITE ARROWa FROM WALLjWITHIN TRIANG",
    "LE ARROWHEADzvNGa ABOVEfBUOYeEQUAL TOiIN EQUAL TOlOPERATORiPOINTgED PLANETjING BELLkSING DIA",
    "GONAL CROSSING FALLING DIAGONALqSOUTH EAST ARROWzpLEbIbMbOcOASTED SWEET POTATOsBOT FACEiCKaE",
    "TeLL OF PAPERjED-UP NEWSPAPERoR COASTERhSKATEiING ON THE FLOOR LAUGHINGzcMAN AS SIGNhCENTURI",
    "AL SIGNoDENARIUS SIGNmIMIDIA SEXTULA SIGNtUPONDIUS SIGNoNUMERAL EIGHTeLEVENgFIFTYa EARLY FOR",
    "MkTHOUSANDmVEa HUNDREDhTHOUSANDmOUReNINEeONEa HUNDREDa THOUSANDqTHOUSANDa C DqREVERSED ONE H",
    "UNDREDuSEVENeIXa LATE FORMnTENa THOUSANDlHREEeWELVEeOlQUINARIUS SIGNoSEMUNCIA SIGNlSTERTIUS ",
    "SIGNnXTANS SIGNiULA SIGNlILIQUA SIGNmUNCIA SIGNoOSTERfSEaTTEfTATED CAPITAL QjFLORAL HEART BU",
    "LLETtHEAVY BLACK HEART BULLETyLIGHT FOUR POINTED BLACK CUSPzeWHITE FOUR POINTED CUSPzeUND PU",
    "SHPINhTARGEThED SYMBOL FOR CAIdFUcLUcSHOUcUANGXIiXItWBOATgSbUBLE SIGNiGBY FOOTBALLmLE-DELAYE",
    "DkMI DIGIT EIGHTfFIVEdOUReNINEeONEdSEVENeIXdTHREEeWOjFRACTION ONE HALFeQUARTERhTHIRDjTWO THI",
    "RDStNUMBER EIGHT HUNDREDiYgFIFTYdVE HUNDREDlORTYdUR HUNDREDmNINE HUNDREDiTYgONE HUNDREDlSEVE",
    "N HUNDREDiTYgIX HUNDREDiTYfTENcHIRTYeREE HUNDREDmWENTYeO HUNDREDvNIC ARLAUG SYMBOLnBELGTHOR ",
    "SYMBOLpCROSS PUNCTUATIONrLETTER AC AdESCdLGIZ EOLHXkNSUZ AhBERKANAN BEORC BJARKAN ByCaALCdEA",
    "LCdNcWEORTHhDaAGAZ DAEG DlOTTED-LbNbPiEaARcHWAZ EH EjNGcTHdFEHU FEOH FE FnRANKS CASKET ACbES",
    "CeEHcIScOSqGaARcEBO GYFU GjRdHAEGL HfGLAZ HiICELANDIC-YRlNGaWAZfORcSAZ IS ISS ImWAZ EOHiJERA",
    "N JhKaAUN KcAfLAUKAZ LAGU LOGR LrONG-BRANCH-AR AEfHAGALL HiMADR MgOSS OfYRoMANNAZ MAN MmNAUD",
    "IZ NYD NAUD NrOaEbNbObPEN-PfS OdTHALAN ETHEL OpPERTHO PEORTH PpQbRAIDO RAD REID RqSHaORT-TWI",
    "G-AR AeBJARKAN BjHAGALL HiMADR MgNAUD NgOSS OfSOL SfTYR TfYRmIGEL LONG-BRANCH-SOL SwOWILO Sh",
    "TANeTHURISAZ THURS THORNtIWAZ TIR TYR TpURUZ UR UjVbWaUNJO WYNN WmXbYaRcZiMULTIPLE PUNCTUATI",
    "ONuSINGLE PUNCTUATIONsTVIMADUR SYMBOLsNERcING SHIRT WITH SASHvPEE SIGNiSSIAN ASTROLOGICAL SY",
    "MBOL BINOVILEiNOVILEgQUINTILEiSENTAGONiTREDECILEjVIGINTILEzmS IN TRIANGLEmAFETY PINdVESTjGIT",
    "TARIUSjILBOATgKE BOTTLE AND CUPrLT SHAKERhIREeUTING FACElMARITAN ABBREVIATION MARKrLETTER AL",
    "AFeBAAcITdDALATfFIcGAMANfINbTbYcKAAFeLABATfMIMdNUNdQUFdRISHeSHANdINGAAThTAAFdITcSAADIYhYUTdZ",
    "ENkMARK DAGESHgEPENTHETIC YUToINa-ALAFhNEQUDAAhOCCLUSIONnODIFIER LETTER EPENTHETIC YUToIbSHO",
    "RT AxPUNCTUATION AFSAAQfNGEDdNAAUfRKAANUgTMAAUgBAUdMELODIC QITSAnNEQUDAAhQITSAfSHIYYAALAAjOF",
    " MASHFAATmTURUeZAEFdIQAArVOWEL SIGN AaAcEbIbLONG AaAcEbIbUgOaVERLONG AaAlSHORT AgUKUNfUuNDWI",
    "CHfS-SERIF HEAVY DOUBLE COMMA QUOTATION MARK ORNAMENTzeTURNED COMMA QUOTATION MARK ORNAMENTz",
    "sLOW DOUBLE COMMA QUOTATION MARK ORNAMENTzvINTERROBANG ORNAMENTzeRIcTELLITEa ANTENNAoURNeURA",
    "SHTRA CONSONANT SIGN HAARUuDANDAeIGIT EIGHTfFIVEdOUReNINEeONEdSEVENeIXdTHREEeWOdZEROjOUBLE D",
    "ANDAmLETTER AaAbIbUcBAbHAdCAbHAdDAbDAbHAdHAdEaEcGAbHAdHAcIaIcJAbHAdKAbHAdLAbLAdMAcNAbGAcNAcY",
    "AdOaOcPAbHAdRAcSAbHAcSAdTAbHAcTAbHAeUaUcVAbOCALIC LaLcRaRkYAjSIGN ANUSVARAiCANDRABINDUlVIRAM",
    "AeSARGAmVOWEL SIGN AAbIbUcEaEcIaIcOaOcUaUcVOCALIC LaLcRaRzdOPODgXOPHONEiCALESdRFdHOOLa SATCH",
    "ELmIbOOTEReRPIONcUSgREENcWDRIVERiIPT CAPITAL BbEbFbHbIbLbMbPbRjLIGATURE ET ORNAMENTuSMALL Eb",
    "GbLbOlOLLdUPLEgEALbTcCOND PLACE MEDALpTION SIGNiOReDNAdE-NO-EVIL MONKEYpDLINGgGMENTaED DIGIT",
    " EIGHTfFIVEdOUReNINEeONEdSEVENeIXdTHREEeWOdZEROsLFIEeMICOLONfDIRECT PRODUCT WITH BOTTOM CLOS",
    "EDziSEXTILEjPARATED SYMBOLoRIOUS FACE WITH SYMBOLS COVERING MOUTHzmVICE MARKkSAME DOThQUIQUA",
    "DRATEmT MINUSfTRANSMIT STATEqWING NEEDLElXTILEgGCcHADOWED WHITE CIRCLEgLATIN CROSSlSTARqLLOW",
    " PAN OF FOODqMROCKfRADA ABBREVIATION SIGNrCONTINUATION SIGNrDANDAeIGIT EIGHTfFIVEdOUReNINEeO",
    "NEdSEVENeIXdTHREEeWOdZEROjOUBLE DANDAmEKAMdXTRA SHORT VOWEL MARKwHEADSTROKEkLETTER AaAbIbUcB",
    "AbHAdCAbHAdDAbDAbHAdHAdEbGAbHAdHAcIaIcJAbHAdKAbHAdLAbLAdMAcNAbGAcNAcYAdObPAbHAdRAcSAbHAcSAdT",
    "AbHAcTAbHAeUaUcVAbOCALIC LaLcRaRkYAjOMcSANDHI MARKkECTION MARK-1b2mPARATORiIGN ANUSVARAhVAGR",
    "AHAiCANDRABINDUlINVERTED CANDRABINDUuJIHVAMULIYAlNUKTAfSIDDHAMhUPADHMANIYAlVIRAMAeSARGAlUTRA",
    " MARKkVOWEL MODIFIER MARKnSIGN AAbIbUcEbIaIcObPRISHTHAMATRA EpUaUcVOCALIC LaLcRaRzKcVED ICEg",
    "IAN LETTER ADOcGEcHbIRcREbRAYeSHcWEdBIBdCHURCHgDEADeEARbTcGGcRRdFEEdGAGdHA-HAeUNGeIANcCEcFcJ",
    "UDGEfKICKeLOLLeMEASUREgIMEeNUNdOAKcILcNbOZEdRbUTdPEEPeROAReSObUREeTHEYcIGHeOTdUPcVOWdWOEbOLe",
    "YEAbWdZOOqEEPdIELDdFT INcOUTgNTO SHRINEkPcOCKED FACE WITH EXPLODING HEADzeOTING STARkPPING B",
    "AGSeTROLLEYnRT BACKSLANTED SOUTH ARROWwENT ARROW POINTING DOWNWARDS THEN NORTH EASTzuDOWN TA",
    "CKa WITH OVERBARwLEFT TACKjRIGHTWARDS ARROW ABOVE LEFTWARDS ARROWznSLANTED NORTH ARROWtUP TA",
    "CKa ABOVE SHORT DOWN TACKvWITH UNDERBARwCAKEeHAND FORMAT CONTINUING OVERLAPsDOWN STEPjLETTER",
    " OVERLAPoUP STEPtSdULDERED OPEN BOXqWEReRIMPdUGdUFFLE PRODUCTnYcIaDDHAM DANDAeOUBLE DANDAmEN",
    "D OF TEXT MARKqLETTER AaAbIbLTERNATE UkUcBAbHAdCAbHAdDAbDAbHAdHAdEbGAbHAdHAcIaIcJAbHAdKAbHAd",
    "LAcMAcNAbGAcNAcYAdObPAbHAdRAcSAbHAcSAdTAbHAbREE-CIRCLE ALTERNATE IxTAbHAdWO-CIRCLE ALTERNATE",
    " IaIxUaUcVAbOCALIC LaLcRaRkYAjREPETITION MARK-1b2b3rSECTION MARK DOUBLE RINGa WITH RAYSvWITH",
    " CIRCLES AND FOUR ENCLOSURESpRAYSeTWO ENCLOSURESzbDOUBLE CRESCENTSqQUADRUPLE CRESCENTStRAYS ",
    "AND DOTTED CRESCENTSjDOUBLE CRESCENTSqTRIPLE CRESCENTSzhSEPTUPLE CRESCENTSsTRIDENT AND DOTTE",
    "D CRESCENTSqU-SHAPED ORNAMENTSzcPLE CRESCENTSzhPARATOR BARdDOTmIGN ANUSVARAiCANDRABINDUlNUKT",
    "AfSIDDHAMhVIRAMAeSARGAmVOWEL SIGN AAbIbLTERNATE UaUlUcEbIaIcObUaUcVOCALIC RaRzbEWAYS BLACK D",
    "OWN POINTING INDEXtLEFT POINTING INDEXtRIGHT POINTING INDEXuUP POINTING INDEXxWHITE DOWN POI",
    "NTING INDEXtLEFT POINTING INDEXtRIGHT POINTING INDEXuUP POINTING INDEXzfGN OF THE HORNSnWRIT",
    "ING AIR BLOW SMALL ROTATIONSqING OUTlSUCK SMALL ROTATIONSqING INoBREATH EXHALEgINHALElUSH BE",
    "TWEENhMULTIPLEiSINGLEmCHEEKS NEUTRALhPUFFEDgSUCKEDmOLONdMMAfDREAMY EYEBROWS DOWN NEUTRALmNEU",
    "TRAL DOWNeUPkUP NEUTRALzYNAMIC ARROWHEAD LARGEfSMALLpEVERY OTHER TIMEqFASTeGRADUALhRELAXEDhS",
    "IMULTANEOUSa ALTERNATINGxLOWeTENSEnEARSdXCITEMENTjYE BLINK MULTIPLEiSINGLEmWINKfBROWS STRAIG",
    "HT DOWNeNEUTRALhUPrGAZE-FLOORPLANE CURVEDgSTRAIGHTa ALTERNATINGlDOUBLEzbWALLPLANE CIRCLINGhU",
    "RVEDgSTRAIGHTa ALTERNATINGlDOUBLEzfLASHES DOWNeFLUTTERINGkUPjS CLOSEDgHALF CLOSEDgOPENjOPENe",
    "SQUEEZEDiWIDE OPENfNING MOVEMENTwFACE DIRECTION POSITION NOSE FORWARD TILTINGpUP OR DOWNa TI",
    "LTINGzvILL MODIFIER-2b3b4b5b6nNGERfLICK LARGE MULTIPLEiSINGLEmSEQUENTIALjMALL MULTIPLEiSINGL",
    "EqOORPLANE SHOULDER HIP MOVEzcOREHEAD CONTACThNEUTRALhWRINKLEDqULL STOPjGRASP BETWEENhMULTIP",
    "LEiSINGLEmHAIRcND-ANGLEa INDEXa MIDDLE LITTLEgRINGlRING LITTLEa OUTpTHUMBa INcOUTpLITTLE IND",
    "EXa THUMB INDEX THUMBa OUTzcUPjMIDDLE RING LITTLEa INcOUTwRING DOWN MIDDLE THUMB INDEX CROSS",
    "zeLITTLErCIRCLEa INDEXa BENTeHINGEfMIDDLEa CROSS LITTLEhEDhLITTLEgRINGeTHUMBmRING LITTLErLIT",
    "TLE INDEXfUPjMIDDLE RING LITTLEa BENTqUPjRING LITTLErLAWa FOUR FINGERS CONJOINEDwINDEX THUMB",
    " CURVE THUMB INSIDEzfMIDDLE RING LITTLE CONJOINEDa SIDEziNO THUMBiTHUMB FORWARDhSIDEoUPa FIV",
    "E FINGERS SPREADa OPENyINDEXa RING LITTLElTHUMBa OPENqMIDDLE RING LITTLEsNO THUMBiOPENa NO T",
    "HUMBiTHUMB FORWARDhSIDEpTHUMB FORWARDhSIDEmRLICUEa INDEX RING LITTLE ONuMIDDLE RING LITTLE O",
    "NvOPENnFISTa FOUR FINGERS CONJOINED BENTzcHEELeINDEXa BENTa OVER MIDDLEqCUPPEDgHINGEDa LOWdM",
    "IDDLE UPa THUMB SIDEzcMIDDLEa BENTa THUMB STRAIGHTtCONJOINEDa CUPPEDa THUMB FORWARDuHINGEDa ",
    "THUMB SIDErINDEX BENTkMIDDLE BENTlTHUMB FORWARDhSIDEa BENTeCONJOINEDzeROSS LITTLEhEDa THUMB ",
    "SIDEsHINGEDa SPREAD THUMB SIDEyLITTLEgRAISED KNUCKLESoINGa BENTeCONJOINEDoSTRAIGHT THUMB BEN",
    "TtTHUMBa ANGLEDa OUTkBENTeCIRCLEDgONJOINED HINGEDpUPPEDgHINGEDfOOKEDmUP SPREAD THUMB FORWARD",
    "zfRAISED KNUCKLEnING LITTLElTHUMB ANGLED IN MIDDLE UPmOUT MIDDLE UPuCIRCLEaD MIDDLE UPqUPPED",
    " MIDDLE UPoRLICUEfVE THUMB INSIDEgUNDERrFORWARD INDEX BENTeSTRAIGHTwHOOKaED MIDDLE HINGEDgUP",
    "qSIDEa BOTH BENTjINDEX BENTeHINGElTHUMB BENTeCONJOINEDjDIAGONALzUP MIDDLE HINGEDa THUMB CONJ",
    "OINEDjSIDEziLITTLE BENTeDOWNa OTHERS CIRCLEDoRIPPLE CURVEDgSTRAIGHTuINDEXa THUMBlRAISED KNUC",
    "KLEoTHUMBeOUCHES THUMBnUPjMIDDLE BENT OVER INDEXpDOWNeLITTLEgRAISED KNUCKLEnING LITTLElTHUMB",
    " ANGLED INDEX UPiOUT INDEX CROSSEDhUPtCIRCLED INDEX HINGEDgUPpUPPED INDEX UPpHOOKED INDEX UP",
    "pLITTLEmUPa THUMB SIDEuRING DOWNeINDEXfLITTLEgMIDDLEa CONJOINEDjRAISED KNUCKLESwRAISED KNUCK",
    "LEoTHUMBfUPhTHUMBa BETWEEN INDEX MIDDLEa STRAIGHTvMIDDLE RINGlRING LITTLEtFORWARDhHEELeOVER ",
    "FOUR RAISED KNUCKLESuTWO FINGERSqSIDE BENTeCONJOINEDjDIAGONALnUNDER FOUR FINGERSmINDEX BENTk",
    "LITTLE UPjTHREE FINGERSmWO FINGERSzcLATa BETWEEN PALM FACINGSuFIVE FINGERS SPREADa BENTeFOUR",
    " BENTjHINGEDa NO THUMBiTHUMB SIDErTHUMB FORWARDzhOUR FINGERSa BENTeCONJOINEDa SPLITpHINGEDtH",
    "EELa FIVE FINGERS SPREADa BENTeFOUR BENTzeTHUMB SIDEpSPLIT CENTREa THUMB SIDEa BENTwINDEX TH",
    "UMB SIDEqLITTLEmTHUMB BENTeFORWARDhSIDEpHINGEa FIVE FINGERS SPREAD OPENxOUR FINGERS CONJOINE",
    "DwINDEXa HINGEDgMIDDLE LITTLEgRINGa CONJOINEDvRING LITTLElTHUMBa LARGEfOPENeSIDEdMALLrLITTLE",
    "a INDEXa THUMBlTHUMBmMIDDLEa RING LITTLEsNO THUMBiOPENa NO THUMBiTHUMB FORWARDhSIDEpRINGa DO",
    "WN INDEX THUMB HOOK MIDDLEziSMALLfTHUMB BETWEEN MIDDLE RINGtSIDEa TOUCHING INDEXzfOOKa CURLI",
    "CUEiINDEX RING LITTLE INcOUTdUNDERxMIDDLE RING LITTLE CONJOINEDa INcOUTzTHUMBmRING THUMBpOVA",
    "La FIVE FINGERS SPREADtINDEXfLITTLE UPjNO THUMBiRING LITTLElTHUMB FORWARDhSIDEtEADa MOVEMENT",
    " CIRCLEh-FLOORPLANE CURVEfSTRAIGHTtWALLPLANE CURVEfSTRAIGHTiTILTxRIMiLIMB COMBINATIONlLENGTH",
    "-1b2b3b4b5b6b7lP LOWER OVER UPPERqUPPER OVER LOWERrS PRESSED TOGETHERuOCATION DEPTHfHEAD NEC",
    "KhIGHTgLIMBS DIGITSmTORSOfWIDTHg-FLOORPLANE SPACEqWALLPLANE SPACEyMOUTH CLOSED CONTACThFORWA",
    "RDhNEUTRALnORNERShFROWNa OPENeWRINKLEDoKISSa FORWARDhWRINKLEDnOPEN CIRCLEgFORWARDhOVALa WRIN",
    "KLEDiYAWNjRECTANGLEa WRINKLEDiYAWNoWRINKLEDnSMILEa OPENeWRINKLEDoTENSEa FORWARDhSUCKEDmWRINK",
    "LES DOUBLEgSINGLEtVEMENT-DIAGONAL AWAY LARGEaSThMEDIUMgSMALLkBETWEEN AWAY LARGEaSThMEDIUMgSM",
    "ALLkTOWARDS LARGEaSThMEDIUMgSMALLvTOWARDS LARGEaSThMEDIUMgSMALLwFLOORPLANE ARM CIRCLE HITTIN",
    "G WALL LARGE DOUBLEgSINGLEmMEDIUM DOUBLEgSINGLEnSMALL DOUBLEgSINGLEzlBENDdOX LARGEfMEDIUMgSM",
    "ALLjCHECKeORNER LARGEfMEDIUMgSMALLlROSSeURVE COMBINEDiHITTING CEILING LARGEfSMALLnFLOOR LARG",
    "EfSMALLtLARGEaSThMEDIUMgSMALLlDOUBLE ALTERNATINGa WRIST FLEXwSTRAIGHTiWRIST FLEXrFINGER CIRC",
    "LES HITTING WALL DOUBLEgSINGLEzbONTACToHUMP HITTING CEILING LARGE DOUBLEgTRIPLEmSMALL DOUBLE",
    "gTRIPLEuFLOOR LARGE DOUBLEmSMALL DOUBLEmTRIPLE LARGE TRIPLEmSMALL TRIPLEziSMALLkJAWdLOOP HIT",
    "TING CEILING LARGE DOUBLEgSINGLEmSMALL DOUBLEgSINGLEuFLOOR LARGE DOUBLEgSINGLEmSMALL DOUBLEg",
    "SINGLEzbSMALLkPEAKS LARGEfMEDIUMgSMALLlSHAKING PARALLELpINGLE STRAIGHT LARGEaSThMEDIUMgSMALL",
    "oWRIST FLEXrTRIPLE ALTERNATING MOVEMENTiWRIST FLEXwSTRAIGHT MOVEMENTrWRIST FLEXrWAVE HITTING",
    " CEILING LARGEfSMALLnFLOOR LARGEfSMALLtLARGEfSMALLeNAKEjRIST CIRCLE HITTING WALL DOUBLEgSING",
    "LEzhZIGZAG LARGEfMEDIUMgSMALLxHINGE DOWN SEQUENTIALpSIDE TO SIDE SCISSORSvUP DOWN ALTERNATIN",
    "G LARGEfSMALLrLARGEfSMALLkSEQUENTIALtWALLPLANE ARM CIRCLE MEDIUM DOUBLEgSINGLEnSMALL DOUBLEg",
    "SINGLExBEND LARGEfMEDIUMgSMALLjOX LARGEfMEDIUMgSMALLjCHECK LARGEfMEDIUMgSMALLkORNER LARGEfME",
    "DIUMgROTATIONiSMALLlROSSeURVE HALF-CIRCLE LARGEaSThMEDIUMgSMALLqITTING CHESTfFRONT WALLsQUAR",
    "TER LARGEaSThMEDIUMgSMALLnTHEN STRAIGHTlREE-QUARTER CIRCLE MEDIUMgSMALLzcD CROSS MEDIUMgSMAL",
    "LsDOUBLE ALTERNATINGa WRIST FLEXwSTRAIGHTiWRIST FLEXrFINGER CIRCLES DOUBLEgSINGLEnONTACToHUM",
    "P HITTING CHESTfFRONT WALLsLARGEfMEDIUMgSMALLkJAWdLOOP HITTING CHESTfFRONT WALLsLARGEfMEDIUM",
    "gSMALLa DOUBLErPEAKS LARGEfMEDIUMgSMALLlSHAKINGgINGLE STRAIGHT LARGEaSThMEDIUMgSMALLoWRIST F",
    "LEXrTRIPLE ALTERNATINGa WRIST FLEXwSTRAIGHT MOVEMENTrWRIST FLEXrWAVE CURVE DOUBLE LARGEfMEDI",
    "UMgSMALLmTRIPLE LARGEfMEDIUMgSMALLsDIAGONAL PATH LARGEfMEDIUMgSMALLtHITTING CHESTfFRONT WALL",
    "wRIST CIRCLE FRONT DOUBLEgSINGLEzZIGZAG LARGEfMEDIUMgSMALLzgNECKdOSE CONTACThNEUTRALhWIGGLES",
    "gRINKLESnPARENTHESISlROTATION MODIFIER-10b1b2b3b4b5b6c2b3b4b5b6b7b8b9l-FLOORPLANE ALTERNATIN",
    "Ga HITTING CEILINGhFLOORzDOUBLEa HITTING CEILINGhFLOORuSINGLEa HITTING CEILINGhFLOORzgWALLPL",
    "ANE ALTERNATEbING HITTING CHESTfFRONT WALLzfDOUBLEa HITTING CHESTfFRONT WALLzSINGLEa HITTING",
    " CHESTfFRONT WALLzsUB BETWEENhMULTIPLEiSINGLEkSEMICOLONiHOULDER HIP POSITIONSjSPINEjTILTING ",
    "FROM WAISTzbQUEEZE FLICK ALTERNATINGrLARGE MULTIPLEiSINGLEmSEQUENTIALjMALL MULTIPLEiSINGLEtT",
    "RIKE BETWEENhMULTIPLEiSINGLEmURFACE BETWEENhSYMBOLSpTEETHa BITE LIPSjMOVEMENTiON LIPSa MOVEM",
    "ENTnTONGUEa MOVEMENTwNSE CHEEKS HIGHeLOWdMIDDLEsONGUE CENTRE INSIDE MOUTHmSTICKING OUTtINSID",
    "E MOUTH RELAXEDuLICKING LIPSmMOVES AGAINST CHEEKtSTICKING OUT FARqTIP BETWEEN LIPSmTOUCHING ",
    "INSIDE MOUTHzfRSO-FLOORPLANE TWISTINGtWALLPLANE CURVED BENDlSTRAIGHT STRETCHzfUCH BETWEENhMU",
    "LTIPLEiSINGLElRAVEL-FLOORPLANE ROTATION-FLOORPLANE ALTERNATINGlDOUBLEgSINGLErWALLPLANE ALTER",
    "NATINGlDOUBLEgSINGLEzSHAKINGsWALLPLANE ARM SPIRAL DOUBLEgSINGLEgTRIPLErROTATION-FLOORPLANE A",
    "LTERNATINGlDOUBLEgSINGLErWALLPLANE ALTERNATINGlDOUBLEgSINGLEzSHAKINGyUPPER BODY TILTING FROM",
    " HIP JOINTSzjWALLPLANE SHOULDER HIP MOVEzmLHOUETTE OF JAPANrMILAR ABOVE GREATER-THAN ABOVE E",
    "QUALS SIGNzfLESS-THAN ABOVE EQUALS SIGNziMINUS SIMILARnOR GREATER-THANmLESS-THANsNE WAVEgGLE",
    " CHARACTER INTRODUCERuGRAPHIC CHARACTER INTRODUCERzdHIGH-REVERSED-9 QUOTATION MARKzfLEFT-POI",
    "NTING ANGLE QUOTATION MARKziOW-9 QUOTATION MARKuRIGHT-POINTING ANGLE QUOTATION MARKzkSHIFT T",
    "HREEeWOk-SHIFT-2b3lHALA ARCHAIC DIGIT EIGHTfFIVEdOUReNINEeONEdSEVENeIXdTHREEeWOjNUMBER EIGHT",
    "YgFIFTYeORTYfNINETYgONE HUNDREDhTHOUSANDmSEVENTYgIXTYfTENcHIRTYfWENTYvLETTER AAYANNAgEEYANNA",
    "gYANNAgIYANNAgLPAPRAANA BAYANNAhCAYANNAhDAYANNAgDAYANNAiGAYANNAhJAYANNAhKAYANNAhPAYANNAhTAYA",
    "NNAgTAYANNAsMBA BAYANNAlUYANNAgYANNAgDANTAJA LAYANNAhNAYANNAhSAYANNApEEYANNAgYANNAgFAYANNAhH",
    "AYANNAhIIYANNAgLUUYANNAgYANNAhRUUYANNAgYANNAhYANNAgKANTAJA NAASIKYAYAsMAHAAPRAANA BAYANNAhCA",
    "YANNAhDAYANNAgDAYANNAiGAYANNAhJAYANNAhKAYANNAhPAYANNAhTAYANNAgTAYANNAsYANNAgUURDHAJA LAYANNA",
    "hNAYANNAhSAYANNArOOYANNAgYANNAgRAYANNAhSANYAKA DAYANNAgDAYANNAiGAYANNAhJAYANNApTAALUJA NAASI",
    "KYAYAkSANYOOGA NAAKSIKYAYAsYANNApUUYANNAgYANNAgVAYANNAhYAYANNAnITH DIGIT EIGHTfFIVEdOUReNINE",
    "eONEdSEVENeIXdTHREEeWOdZEROpPUNCTUATION KUNDDALIYAwSIGN AL-LAKUNAiNUSVARAYAkCANDRABINDUlVISA",
    "RGAYAoVOWEL SIGN AELA-PILLAkDIGA AEDA-PILLAkGAETTA-PILLAkYANUKITTAlIS-PILLAiKOMBUVAhPAA-PILL",
    "AoGAETTA-PILLAkYANUKITTAlKETTI AEDA-PILLAkIS-PILLAiPAA-PILLAoOMBU DEKAfVAa HAA AELA-PILLAkDI",
    "GA AELA-PILLApGAYANUKITTAzpX PETALLED BLACK AND WHITE FLORETTEzhOINTED BLACK STARkPINWHEEL S",
    "TARnSTAR WITH MIDDLE DOTze-PER-EM SPACEnTEEN POINTED ASTERISKxKATEBOARDiI AND SKI BOOTnERdUL",
    "La AND CROSSBONESrNKeLANTED EQUAL TO OR GREATER-THANa WITH DOT INSIDEzdLESS-THANa WITH DOT I",
    "NSIDEzmNORTH ARROW WITH HOOKED HEADjRIZONTAL TAILzmVONIC ASTERISKpEDbEPING ACCOMMODATIONnFAC",
    "EeSYMBOLkY FACEiUTH OR SPYlICE OF PIZZAlGHTLY FROWNING FACEnSMILING FACEtOPEbING LARGE ANDdO",
    "RnT MACHINEiHeMALL AIRPLANEhMPERSANDiSTERISKiBLUE DIAMONDmCOLONdMMAbERCIAL ATlNTAINS AS MEMB",
    "ERjWITH OVERBARhVERTICAL BAR AT END OF HORIZONTAL STROKEzzeDOLLAR SIGNlELEMENT OFa WITH OVER",
    "BARhVERTICAL BAR AT END OF HORIZONTAL STROKEzzfM DASHgQUALS SIGNkXCLAMATION MARKqFULL STOPjG",
    "REATER-THAN SIGNrHYPHEN-MINUSmIDEOGRAPHIC COMMArLEFT CURLY BRACKETnPARENTHESISlTORTOISE SHEL",
    "L BRACKETzSS-THAN SIGNoNUMBER SIGNlORANGE DIAMONDoPERCENT SIGNlLUS SIGNjQUESTION MARKnREVERS",
    "E SOLIDUSoIGHT CURLY BRACKETnPARENTHESISlTORTOISE SHELL BRACKETzcOMAN NUMERAL EIGHTeLEVENgFI",
    "FTYdVEa HUNDREDlOUReNINEeONEa HUNDREDhTHOUSANDmSEVENeIXdTENcHREEeWELVEeOrSEMICOLONjTILDEeWO ",
    "DOTS OVER ONE DOT PUNCTUATIONziVEE WITH UNDERBARsER THANa OR EQUAL TOvSH PRODUCTlILEbING CAT",
    " FACE WITH HEART-SHAPED EYESrOPEN MOUTHyFACE WITH HALOdEART-SHAPED EYESqORNSfOPEN MOUTHa AND",
    " COLD SWEATkSMILING EYESmTIGHTLY-CLOSED EYESzjSMILING EYESa AND HAND COVERING MOUTHtTHREE HE",
    "ARTSzdUNGLASSESkTEARtRKING FACElOKING SYMBOLnNAILcKEdEEZING FACElOW CAPPED MOUNTAINqBOARDERh",
    "FLAKEfMANa WITHOUT SNOWtOaCCER BALLiKSdFT HYPHENgICE CREAMjSHELL FLOPPY DISKsBALLeWARE-FUNCT",
    "ION SYMBOLwGDIAN COMBINING CURVE ABOVEfBELOWlDOT ABOVEfBELOWjHOOK ABOVEfBELOWkLONG HOOK BELO",
    "WpRESH BELOWkSTROKE BELOWmTWO DOTS ABOVEfBELOWyINDEPENDENT SHINqLETTER ALEPHeYINeBETHeFETHeG",
    "IMELfHEaTHeKAPHeLAMEDHfESHeMEMdNUNdPEcRESH-AYINjSADHEdMEKHfHINeTAWdWAWdYODHeZAYINmNUMBER ONE",
    "a HUNDREDlTENcWENTYnPUNCTUATION CIRCLE WITH DOTpHALF CIRCLE WITH DOTuTWO CIRCLES WITH DOTSrV",
    "ERTICAL BARSa WITH DOTSzuHbLID QUILT SQUARE ORNAMENTa IN BLACK SQUAREznUSa WITH OVERBARsM SI",
    "GNgON WITH RIGHTWARDS ARROW ABOVEzfRA SOMPENG DIGIT EIGHTfFIVEdOUReNINEeONEdSEVENeIXdTHREEeW",
    "OdZEROkLETTER AHcBAHdCAHdDAHdEEHcHcGAHdHAHdIHcJAHdKAHdLAHdMAEbHdNAHcGAHdYAHeOHcPAHdRAHdSAHdT",
    "AHdUHcVAHdYAHvSbUND RECORDING COPYRIGHTwTH EAST ARROWa AND SOUTH WEST ARROWuCROSSING NORTH E",
    "AST ARROWzTO CORNERjWITH HOOKpBLACK ARROWlDOUBLE ARROWmPOINTING BUDdLEAFeVINE LEAFsSANS-SERI",
    "F ARROWqTRIANGLE-HEADED ARROWa TO BARzdWHITE ARROWqWEST ARROWa AND NORTH WEST ARROWuWITH HOO",
    "KpBLACK ARROWlDOUBLE ARROWmPOINTING BUDdLEAFeVINE LEAFsSANS-SERIF ARROWqTRIANGLE-HEADED ARRO",
    "Wa TO BARzdWHITE ARROWuYOMBO CLUSTER-INITIAL LETTER LAcRAcSAbHAzbFINAL CONSONANT SIGN -AcBbD",
    "bGbKbLbMbNaGcRbSaHxGEMINATION MARKpHEAD MARK WITH MOON AND SUNa AND FLAMEfTRIPLE FLAMEztLETT",
    "ER -AcAbBAbHAdCAbHAdDAbDAbHAdHAcZAdGAbHAdHAcJAbHAdKAbHAcSSAeLAcMAcNAbGAcNAcYAdPAbHAdRAcSAbHA",
    "cSAdTAbHAcSAbHAdTAbHAeVAcYAcZAbHAkMARK DOUBLE SHADlPLUTAfSHADeTSHEGkSIGN ANUSVARAiJIHVAMULIY",
    "AlUPADHMANIYAlVISARGAlUBJOINERjTERMINAL MARK-1b2pVOWEL LENGTH MARKlSIGN AIbUcEbIbOaEcUaEcVOC",
    "ALIC LbRzcPaAaCEcGHETTIgRKLEaScING HEARTnEAK-NO-EVIL MONKEYpERa WITH CANCELLATION STROKEtONE",
    " SOUND WAVEoTHREE SOUND WAVESzING HEAD IN SILHOUETTEyECH BALLOONkDBOATgSMILO SIGNlHERICAL AN",
    "GLEa OPENING LEFTeUPyIDERa WEBhRAL CALENDAR PADmNOTE PADiSHELLkLASHING SWEAT SYMBOLuONGEdOL ",
    "OF THREADlNcRTS MEDALjUTING WHALEnQUARE A OVER MhARUdMbNPEAePAATOfRUHUAfUcBAARERUfRcEETAeIRU",
    "dORUTOfQbUSSYERUiC OVER KGiALbPcCbDbMa CUBEDfSQUAREDjOaRPORATIONkUPdDAaASUeBbESIdJbLbMa CUBE",
    "DfSQUAREDjORUeEEKAAeRA NAME HEISEIgMEIZIfREIWAfSYOUWAgTAISYOUoGcSUKUUDOhVcFMbOOTcUR CORNERSm",
    "GALbNMAdRONeBbHZcIGAcNIIdRUDAAgPAcURAMUaTONiYcHAaITUeEKUTAARUhRUTUfGbIRAGANA HOKAmONbONbRUeP",
    "aAcUARADDOgIITOeRANeZcIMAGE OFa OR EQUAL TOiNOT EQUAL TOxNaINGUeTIdUcK OHMeAaIRIdRATTOeORIIg",
    "BbCALdEESUeGbHZcIROaGURAMUgMEETORUhWATTOiKbLbMa CAPITALgUBEDfSQUAREDjOOPOdRUNAfPAcTbUROONEeU",
    "ZEIROiVbWbYURIIgLEFT OPEN BOX OPERATORvMbNbOGbZENGEgXcM CUBEDfOHMcVER Sa SQUAREDoSQUAREDiAaH",
    "HAdIKUROeRUdNSYONfRUKUfBa SMALLhEETORUfGAaTONgGbHZcIKURONfLbRIaBAARUiLbMa CUBEDfSQUAREDjOLcP",
    "AcSbU AbFbGbLbMbSbVbWdVa MEGAgWa MEGAhNAaNOdFbMbOTTOeSbVbWcONSUdOMUdRIGINAL OFa OR EQUAL TOi",
    "NOT EQUAL TOzbVcPAa AMPSfASENTOfTUeCbEEZIdNIHIdSUdSOdFbHbIASUTORUhKObURUfMbOINTOeNDOdSITION ",
    "INDICATORrPMcRbSbVbWcRADa OVER Sa SQUAREDrEMUcNTOGENhIGHT OPEN BOX OPERATORvRAcTTORUgOOTdUPI",
    "IdUBURUhSAIKURUfNTIIMUhENTIbOeIRINGUgRbVcTARGETfHZcONdUONdV OVER MiWATTOeBbITH BOTTOM HALF B",
    "LACKrCONTOURED OUTLINErDIAGONAL CROSSHATCH FILLyHORIZONTAL FILLpLEFT HALF BLACKoOWER LEFT DI",
    "AGONAL HALF BLACKyRIGHT DIAGONAL HALF BLACKzgORTHOGONAL CROSSHATCH FILLzbRIGHT HALF BLACKqTO",
    "P HALF BLACKoUPPER LEFT DIAGONAL HALF BLACKtTO LOWER RIGHT FILLyRIGHT DIAGONAL HALF BLACKtTO",
    " LOWER LEFT FILLzfVERTICAL FILLsYAADOcRUeUANfD ASTERISKiCJK UNIFIED IDEOGRAPH-4E00b9c2Dc8CcA",
    "4e518Dd21Dc4Dc72d3CCcF3d408c39d5B6d8F0d91Ac29dB57dDE6dF8Ce624Bc53c95d307c55d599cB0d620d708b9",
    "dE80dF14e7121d51Fc33d981dA7AdD42e89E3dCA9dD70e904Ad14DzLbOOLeDOT OPERATORmEIGHT KhFALLING DI",
    "AGONAL SLASHvIVE POINT ONEnOUR DOT PUNCTUATIONpKfREEeHCbDRcI-RESfVcIDcKATAKANA DEcKOKOeSAkEY",
    "dLATIN CAPITAL LETTER AbBbCbDbEbFbGbHbIbJbKbLbMbNbObPbQbRbSbTbUbVbWbXbYbZqSMALL LETTER DtOGI",
    "CAL ANDdORiSSLESSiMINUSeVcNEWcGcOKbNE HUNDRED TWENTY PuPLUSdPVdRISING DIAGONAL SLASHvSALTIRE",
    "gDbECOND SCREENlVEN POINT ONEoHVcIXTY PgMALL CIRCLElOScQUAREfScTHREE DgIMESeWENTY-TWO POINT ",
    "TWOsO KfUHDcP WITH EXCLAMATION MARKyVODcScWCgT BLACK RIGHTWARDS ARROWzIDeS2b3bAcTaADIUMeFF O",
    "F AESCULAPIUSlHERMESmMPED ENVELOPEnNDING PERSONmR AND CRESCENTmEQUALSgOF DAVIDhPERATORiWITH ",
    "LEFT HALF BLACKpRIGHT HALF BLACKwT OF GUARDED AREAmHEADINGhPROTECTED AREAoSELECTED AREAmTRIN",
    "GgTEXTkTIONdUE OF LIBERTYpEAM LOCOMOTIVElING BOWLkNOGRAPHIC FULL STOPtTHOSCOPEjICK FIGUREa L",
    "EANING LEFTeRIGHTnWITH ARMS RAISEDlDRESSvOCK CHARTiPWATCHhRAIGHT RULERgNESSiWBERRYhESS OUTLI",
    "NED WHITE STARxICTLY EQUIVALENT TOsNG TERMINATORpSbUDIO MICROPHONEoFFED FLATBREADoPAdXcUBaSC",
    "RIPT EIGHTeQUALS SIGNlFIVEdOUReLEFT PARENTHESISqMINUSfNINEeONEdPLUS SIGNjRIGHT PARENTHESISrS",
    "EVENeIXdTHREEeWOdZEROkET ABOVE RIGHTWARDS ARROWqSUBSETePERSEToOFa ABOVE ALMOST EQUAL TOpEQUA",
    "LS SIGNlNOT EQUAL TOmTILDE OPERATORuOR EQUAL TOa WITH DOT ABOVEzbWITH NOT EQUAL TOuWITH DOTd",
    "MULTIPLICATION SIGN BELOWzPLUS SIGN BELOWxTITUTEiCCEEDSa ABOVE ALMOST EQUAL TOpEQUALS SIGNlN",
    "OT ALMOST EQUAL TOpEQUAL TOmSINGLE-LINE EQUALS SIGNlNOT EQUAL TOzfBUT NOT EQUIVALENT TOvOR E",
    "QUAL TOfIVALENT TOqUNDER RELATIONvMMATION BOTTOMgTOPdWITH INTEGRALvNa BEHIND CLOUDmWITH FACE",
    "kDANESE AVAGRAHAiCONSONANT SIGN PAMINGKALhNYAKRAeIKUfSANGAN MAcWAzbDIGIT EIGHTfFIVEdOUReNINE",
    "eONEdSEVENeIXdTHREEeWOdZEROkLETTER AaEcBAbHAdCAcDAcEaUcFAbINAL KbMhGAcHAcIbJAcKAbHAdLAbEUdMA",
    "cNAbGAcYAdObPAcQAcRAbEUdSAbYAdTAcUbVAcWAcXAcYAcZAjPUNCTUATION BINDU BA SATANGAkCAKRAfDA SATA",
    "NGAkKA SATANGAkLEU SATANGAlPANGLONGhURNAMAhSURYAxSIGN PAMAAEHfNGLAYARfWISADgYECEKiVIRAMAlVOW",
    "EL SIGN PAMEPETfNAELAENGhEULEUNGhGHULUfOLONGfYUKUzFLOWERgRISEa OVER MOUNTAINStSET OVER BUILD",
    "INGStPERHEROeSCRIPT EIGHTeQUALS SIGNlFIVEdOUReLATIN SMALL LETTER IbNtEFT PARENTHESISqMINUSfN",
    "INEeONEdPLUS SIGNjRIGHT PARENTHESISrSEVENeIXdTHREEeWOdZEROkET ABOVE LEFTWARDS ARROWpSUBSETeP",
    "ERSEToBESIDE AND JOINED BY DASH WITH SUBSETzfSUBSETnOFa ABOVE ALMOST EQUAL TOpEQUALS SIGNlNO",
    "T EQUAL TOmTILDE OPERATORuOR EQUAL TOa WITH DOT ABOVEzbWITH NOT EQUAL TOuPRECEDING SOLIDUSrW",
    "ITH DOTdMULTIPLICATION SIGN BELOWzPLUS SIGN BELOWyVILLAINkRFACE INTEGRALmEReSHIcPENSION RAIL",
    "WAYrWANbSH AMPERSAND ORNAMENTwIMMERfUNG DASHjYLOTI NAGRI LETTER AbBHOcOcCHOcOcDDHOcOcHOcOcEb",
    "GHOcOcHOcIbJHOcOcKHOcOcLOcMOcNOcObPHOcOcRObROdSOcTHOcObTHOcOdUiPOETRY MARK-1b2b3b4nSIGN ALTE",
    "RNATE HASANTAqNUSVARAiDVISVARAiHASANTAmVOWEL SIGN AbEbIbOOcUxMBOL FOR ACKNOWLEDGElBACKSPACEi",
    "ELLeCANCELeRRIAGE RETURNpDATA LINK ESCAPEpELETEa FORM TWOnVICE CONTROL FOUReONEdTHREEeWOsEND",
    " OF MEDIUMgTEXTdRANSMISSIONa BLOCKxQUIRYgSCAPEgFILE SEPARATORnORM FEEDjGROUP SEPARATORpHORIZ",
    "ONTAL TABULATIONvLINE FEEDjMARKS CHAPTERnNEGATIVE ACKNOWLEDGEsWLINEgULLeRECORD SEPARATORqSAM",
    "ARITAN SOURCEpHIFT INcOUTiPACEeTART OF HEADINGhTEXTmUBSTITUTEa FORM TWOsYNCHRONOUS IDLEqTYPE",
    " A ELECTRONICSsUNIT SEPARATORoVERTICAL TABULATIONzcMETRYgNaAGOGUEgCHRONOUS IDLEoRIAC ABBREVI",
    "ATION MARKrBARREKHhCOLON SKEWED LEFTeRIGHTqNTRACTIONlDOTTED ZLAMA ANGULARhHORIZONTALxEND OF ",
    "PARAGRAPHpSASA ABOVEfBELOWlFEMININE DOTmHARKLEAN ASTERISCUSkMETOBELUSjOBELUSoBASA ABOVEfBELO",
    "Wg-ESASA DOTTEDrORIZONTAL COLONqLETTER ALAPHfBETHeDALATHfOTLESS DALATH RISHtEbFINAL SEMKATHn",
    "GAMALa GARSHUNIoHEaTHeKAPHeLAMADHgMALAYALAM BHAdJAcLLAbLAeNGAcNAbNAdYAdRAcSSAdTTAmIMdNUNdPEa",
    "RSIAN BHETHfDHALATHhGHAMALoQAPHeREVERSED PEkISHeSADHEeEMKATHgHINdOGDIAN FEcKHAPHfZHAINmUPERS",
    "CRIPT ALAPHrTAWcETHa GARSHUNInWAWdYUDHa HEhZAINlMUSICfOBLIQUE LINE ABOVEfBELOWsPTHAHA ABOVEf",
    "BELOWfDOTTEDnQUSHSHAYAjRBASA ABOVEfBELOWkUKKAKHAhWAHAfSUBLINEAR COLONa SKEWED LEFTeRIGHTsFUL",
    "L STOPrPRALINEAR COLONa SKEWED LEFTrFULL STOPvTHREE DOTS ABOVEfBELOWpWO VERTICAL DOTS ABOVEf",
    "BELOWxZQAPHA ABOVEfBELOWfDOTTEDqNGEhT-REXdSHIRTgABaLE TENNIS PADDLE AND BALLzbCOcG AMPERSAND",
    "iPOSTROPHEjSTERISKiCIRCUMFLEX ACCENTqOLONdMMAbERCIAL ATnDIGIT EIGHTfFIVEdOUReNINEeONEdSEVENe",
    "IXdTHREEeWOdZEROjOLLAR SIGNlEQUALS SIGNkXCLAMATION MARKqFULL STOPjGRAVE ACCENTkEATER-THAN SI",
    "GNrHYPHEN-MINUSmLATIN CAPITAL LETTER AbBbCbDbEbFbGbHbIbJbKbLbMbNbObPbQbRbSbTbUbVbWbXbYbZqSMA",
    "LL LETTER AbBbCbDbEbFbGbHbIbJbKbLbMbNbObPbQbRbSbTbUbVbWbXbYbZtEFT CURLY BRACKETnPARENTHESISl",
    "SQUARE BRACKETrSS-THAN SIGNnOW LINEiNUMBER SIGNlPERCENT SIGNlLUS SIGNjQUESTION MARKlOTATION ",
    "MARKoREVERSE SOLIDUSoIGHT CURLY BRACKETnPARENTHESISlSQUARE BRACKETuSEMICOLONiOLIDUSgPACEfTIL",
    "DEfVERTICAL LINEoALOG LETTER AaRCHAIC RAkBAcDAcGAcHAcIbKAcLAcMAcNAbGAdPAcRAcSAcTAcUbWAcYAjSI",
    "GN PAMUDPODiVIRAMAlVOWEL SIGN IbUrBANWA LETTER AbBAcDAcGAcIbKAcLAcMAcNAbGAdPAcSAcTAcUbWAcYAj",
    "VOWEL SIGN IbUtI LE LETTER AaIbUEdEaEbHcFAcHAcIbKAbHAdLAcMAcNAbGAdOaOcPAbHAdQAcSAcTAbHAcONE-",
    "2b3b4b5b6fSAbHAeUaEcVAcXAcYAmTHAM COMBINING CRYPTOGRAMMIC DOTzNSONANT SIGN BAcFINAL NGAjHIGH",
    " RATHA OR LOW PAuLA TANG LAIkOW PAgMAbEDIAL LAcRAjSArHORA DIGIT EIGHTfFIVEdOUReNINEeONEdSEVE",
    "NeIXdTHREEeWOdZEROpLETTER AbBAcDAcEEcGREAT SAiHIGH CAbHAdFAcHAcKAbHAcXAdPAbHAdRATHAfSAbHAcSA",
    "dTAbHAdYAhIaIcLAaEcLAcOW CAbHAdFAcHAcKAbHAcXAdPAbHAdRATHAfSAcTAbHAdYAfUEdMAcNAbGAcYAdOOcRAaN",
    "AcTAdUEdUaUcWAjSIGN CAANGfDOKMAIgHANGdOYdKAANaKUUgEOWdHUEN TONE-3b4b5h-LUE KARANpMAI KANGa L",
    "AIiSAMdYAMOKjRA HAAMgEVERSED ROTATED RANAvSAKOTdTKAANaKUUiWANfTONE-1b2gWIANGaWAAKoTHAM DIGIT",
    " EIGHTfFIVEdOUReNINEeONEdSEVENeIXdTHREEeWOdZEROpVOWEL SIGN AaAbEbIcEbIaIcMAI SAThOaA ABOVEfB",
    "ELOWhObYcTALL AAgHAM AIhUaEbUaEtVIET LETTER HIGH BOcCHOcOcDOcFOcGOcHOcKHHOcOcOcLOcMOcNGOcObY",
    "OdObPHOcOcROcSOcTHOcOcVOcYOhLOW BOcCHOcOcDOcFOcGOcHOcKHHOcOcOcLOcMOcNGOcObYOdObPHOcOcROcSOcT",
    "HOcOcVOcYOnMAI KANGdHITiSYMBOL HO HOIgKOI KOIfNdNUENGfSAMkTONE MAI EKcNUENGfSONGeTHOmVOWEL A",
    "AbMbNbUEcYcEbIaAcObUaAbEaAqKEOUT BOXiRI ABBREVIATION SIGNrDIGIT EIGHTfFIVEdOUReNINEeONEdSEVE",
    "NeIXdTHREEeWOdZEROkLETTER AaAbIbRCHAIC KHAkUcBAbHAdCAbHAdDAbDAbHAdHAdEbGAbHAdHAcIaIcJAbHAdKA",
    "bHAdLAcMAcNAbGAcNAcYAdObPAbHAdRAbRAdSAbHAdTAbHAcTAbHAeUaUcVAcYAjSIGN ANUSVARAiNUKTAfVIRAMAeS",
    "ARGAmVOWEL SIGN AAbIbUcEbIaIcObUaUrLLY MARK FIVEeONEmMALEdIL AND ODD SIGNlS ABOVE SIGNmU LEN",
    "GTH MARKoCREDIT SIGNkURRENT SIGNmDAY SIGNhEBIT SIGNjIGIT EIGHTfFIVEdOUReNINEeONEdSEVENeIXdTH",
    "REEeWOdZEROjRY CULTIVATION SIGNuFRACTION DOWNSCALING FACTOR KIIZHyONE EIGHTHbIETHjFIFTHeORTI",
    "ETHiHALF-1b2gONE-HUNDRED-AND-SIXTIETHyQUARTERhSIXTEENTH-1b2hY-FOURTHmTENTHeHIRTY-SECONDlREE-",
    "HUNDRED-AND-TWENTIETHzbWENTIETHnTHREE EIGHTIETHSkQUARTERSiSIXTEENTHSgY-FOURTHSnTWENTIETHSzIN",
    " POSSESSION SIGNsLAND SIGNiETTER AaAbIbUcCAcEaEcHAcIaIcJAcKAcLAbLAbLAeMAcNAbGAcNAbNAdYAdOaOc",
    "PAcRAbRAdSAbHAcSAdTAbTAdUaUcVAcYAjMONTH SIGNkNUMBER ONE HUNDREDhTHOUSANDmSIGNeTENkOMcPUNCTUA",
    "TION END OF TEXTxRUPEE SIGNkSALT PAN SIGNmIGN AAZHAAKKUiNUSVARAiCEVITUgKAACUeURUNIeZHIfMUKKU",
    "RUNIhTHALIYAhUVUZHAKKUlNELdPAARAMeNAMdTHAKKUhONdUZHAKKUhVAKAIYARAAiRAAKANhELIdIRAMAeSARGAlPE",
    "NT SIGNjTARTING FROM SIGNsTOTAL SIGNjRADITIONAL CREDIT SIGNlNUMBER SIGNxVOWEL SIGN AAbIbUcEa",
    "EcIaIcOaOcUaUnWET CULTIVATION SIGNuYEAR SIGNnNABATA TREEkGERINEfSA DIGIT EIGHTfFIVEdOUReNINE",
    "eONEdSEVENeIXdTHREEeWOdZEROkLETTER ACbQbWCbQbXbZcXbZcBAcCAbHAdDAbHAdECbQbXbZcFAbINAL NGiGAbH",
    "AdHAbTAbTAeICbQbXbZcKAbHAdLAbONG UEXiMAbCbQbXbZcNAbGAcHAcYAdOCbQbXbZcPAbHAdRAcSAbHAbORT AWXd",
    "UEZjTAbHAcSAdUCbECbQbXbZcICbQbUCbQbXbZcXbZcQbXbZcVCbQbXbZcWAcXAcYAcZAmUT COMPONENT-001b2b3b4",
    "b5b6b7b8b9c10b1b2b3b4b5b6b7b8b9c20b1b2b3b4b5b6b7b8b9c30b1b2b3b4b5b6b7b8b9c40b1b2b3b4b5b6b7b8",
    "b9c50b1b2b3b4b5b6b7b8b9c60b1b2b3b4b5b6b7b8b9c70b1b2b3b4b5b6b7b8b9c80b1b2b3b4b5b6b7b8b9c90b1b",
    "2b3b4b5b6b7b8b9d100b1b2b3b4b5b6b7b8b9c10b1b2b3b4b5b6b7b8b9c20b1b2b3b4b5b6b7b8b9c30b1b2b3b4b5",
    "b6b7b8b9c40b1b2b3b4b5b6b7b8b9c50b1b2b3b4b5b6b7b8b9c60b1b2b3b4b5b6b7b8b9c70b1b2b3b4b5b6b7b8b9",
    "c80b1b2b3b4b5b6b7b8b9c90b1b2b3b4b5b6b7b8b9d200b1b2b3b4b5b6b7b8b9c10b1b2b3b4b5b6b7b8b9c20b1b2",
    "b3b4b5b6b7b8b9c30b1b2b3b4b5b6b7b8b9c40b1b2b3b4b5b6b7b8b9c50b1b2b3b4b5b6b7b8b9c60b1b2b3b4b5b6",
    "b7b8b9c70b1b2b3b4b5b6b7b8b9c80b1b2b3b4b5b6b7b8b9c90b1b2b3b4b5b6b7b8b9d300b1b2b3b4b5b6b7b8b9c",
    "10b1b2b3b4b5b6b7b8b9c20b1b2b3b4b5b6b7b8b9c30b1b2b3b4b5b6b7b8b9c40b1b2b3b4b5b6b7b8b9c50b1b2b3",
    "b4b5b6b7b8b9c60b1b2b3b4b5b6b7b8b9c70b1b2b3b4b5b6b7b8b9c80b1b2b3b4b5b6b7b8b9c90b1b2b3b4b5b6b7",
    "b8b9d400b1b2b3b4b5b6b7b8b9c10b1b2b3b4b5b6b7b8b9c20b1b2b3b4b5b6b7b8b9c30b1b2b3b4b5b6b7b8b9c40",
    "b1b2b3b4b5b6b7b8b9c50b1b2b3b4b5b6b7b8b9c60b1b2b3b4b5b6b7b8b9c70b1b2b3b4b5b6b7b8b9c80b1b2b3b4",
    "b5b6b7b8b9c90b1b2b3b4b5b6b7b8b9d500b1b2b3b4b5b6b7b8b9c10b1b2b3b4b5b6b7b8b9c20b1b2b3b4b5b6b7b",
    "8b9c30b1b2b3b4b5b6b7b8b9c40b1b2b3b4b5b6b7b8b9c50b1b2b3b4b5b6b7b8b9c60b1b2b3b4b5b6b7b8b9c70b1",
    "b2b3b4b5b6b7b8b9c80b1b2b3b4b5b6b7b8b9c90b1b2b3b4b5b6b7b8b9d600b1b2b3b4b5b6b7b8b9c10b1b2b3b4b",
    "5b6b7b8b9c20b1b2b3b4b5b6b7b8b9c30b1b2b3b4b5b6b7b8b9c40b1b2b3b4b5b6b7b8b9c50b1b2b3b4b5b6b7b8b",
    "9c60b1b2b3b4b5b6b7b8b9c70b1b2b3b4b5b6b7b8b9c80b1b2b3b4b5b6b7b8b9c90b1b2b3b4b5b6b7b8b9d700b1b",
    "2b3b4b5b6b7b8b9c10b1b2b3b4b5b6b7b8b9c20b1b2b3b4b5b6b7b8b9c30b1b2b3b4b5b6b7b8b9c40b1b2b3b4b5b",
    "6b7b8b9c50b1b2b3b4b5b6b7b8b9c60b1b2b3b4b5b6b7b8nITERATION MARKtPE CARTRIDGEjDRIVEiURUSeXIdEA",
    "CUP WITHOUT HANDLEsPOTdR-OFF CALENDARnDROP-BARBED RIGHTWARDS ARROWxSPOKED ASTERISKwDDY BEARi",
    "LEPHONE LOCATION SIGNnON TOP OF MODEMpRECEIVERa WITH PAGEpORDERiSIGNkSCOPEfVISIONhUGU AI LEN",
    "GTH MARKoDIGIT EIGHTfFIVEdOUReNINEeONEdSEVENeIXdTHREEeWOdZEROkFRACTION DIGIT ONE FOR EVEN PO",
    "WERS OF FOURtODD POWERS OF FOURzbTHREE FOR EVEN POWERS OF FOURtODD POWERS OF FOURzcWO FOR EV",
    "EN POWERS OF FOURtODD POWERS OF FOURzbZERO FOR ODD POWERS OF FOURzrLENGTH MARKjTTER AaAbIbUc",
    "BAbHAdCAbHAdDAbDAbHAdHAcZAdEaEcGAbHAdHAcIaIcJAbHAdKAbHAdLAbLAbLAeMAcNAaKAARA POLLUmGAcNAcYAd",
    "OaOcPAbHAdRAbRAbRAeSAbHAcSAdTAbHAcSAcTAbHAeUaUcVAbOCALIC LaLcRaRkYAjSIGN ANUSVARAhVAGRAHAiCA",
    "NDRABINDUkOMBINING ANUSVARA ABOVEoCANDRABINDU ABOVEzcNUKTAfSIDDHAMhTUUMUfVIRAMAeSARGAmVOWEL ",
    "SIGN AAbIbUcEaEcIaIcOaOcUaUcVOCALIC LaLcRaRzbNGE SIGNhNIS RACQUET AND BALLuTcST TUBEhTRAGRAM",
    " FOR ACCUMULATIONlDVANCEgGGRAVATIONkSCENTgBARRIERgOLD RESOLUTIONoRANCHING OUTnCENTREfHANGEfL",
    "OSED MOUTHhNESSfUREgOMPLETIONfIANCEiNSTANCYgTACTdENTIONgRARIETYlDARKENINGiECISIVENESSkFECTIV",
    "ENESS OR DISTORTIONzPARTUREiIFFICULTIESkMINISHMENTjMINGfVERGENCEjOUBTeUTIESgEASEdMBELLISHMEN",
    "TmNCOUNTERSiDEAVOURhLARGEMENTkTERNITYhXHAUSTIONkFAILUREgLIGHTfOLLOWINGhSTERINGiULL CIRCLEhNE",
    "SSiGATHERINGa INlOING TO MEETmREATNESSiUARDEDNESSlHARDNESShOLDING BACKmINCREASEgNERfJOYdKEEP",
    "ING SMALLmINSHIPhLABOURINGhW OR MODELlEGIONgMASSINGgEASUREgIREDfON THE VERGElPPOSITIONkPACKI",
    "NGfTTERNgENETRATIONkURITYgREACHdLEASEfSIDENCEfSTANCEhPONSEhITUALgSEVERANCEiINKINGgTOPPAGEfVE",
    "dRENGTHiUNITYfVASTNESS OR WASTINGtWAITINGfTCHfYOUTHFULNESSzHAANA AABAAFILIiBAFILIhEBEFILIgEB",
    "EEFILIiYBEYFILIjIBIFILIhLETTER AINUdLIFUfBAAdCHAVIYANIjDAADHUeVIYANIhHAALUgFAAFUfGAAFUeHAINU",
    "fNAVIYANIjHAAcHAAeJAVIYANIiKAAFUeHAAeLAAMUeHAVIYANIjMEEMUfNAAcOONUfPAVIYANIiQAAFUfRAAdSAADHU",
    "fEENUeHAVIYANIhEENUgTAVIYANIhHAAaLUfObTAAeVAAVUfWAAVUfYAAdZAAbVIYANIhOjOABOAFILIiBOFILIgOBOO",
    "FILIjSUKUNfUBUFILIlI CHARACTER ANGKHANKHUkBO BAIMAIjCHO CHANaGdINGdOEiDO CHADAfDEKgFO FAaNeN",
    "GMANhHO HIPdNOKHUKjKHO KHAIcONcUATdWAIfRAKHANGiMUTfO KAIgLAKKHANGYAOkO CHULAfLINGgUcMAI CHAT",
    "TAWAiEKcHAN-AKATiTHOcRIeTAIKHUgYAMOKhO MAfNGO NGUgIKHAHIThO NENcUfO ANGfPAIYANNOIiHINTHUfO P",
    "HANcUNGfSAMPHAOkO PLAgRO RUAfUcSARA AaAbEbI MAIMALAIeUANjMcEbIaIcObUaEaEcUgO RUSIeSALAdObUAg",
    "THANTHAKHATjO NANGMONTHOkPHUTHAOhTHAHANdNcONGdUNGiO PATAKfTAOgWO WAENhYAMAKKANhO YAKcINGqURR",
    "ENCY SYMBOL BAHTuDIGIT EIGHTfFIVEdOUReNINEeONEdSEVENeIXdTHREEeWOdZEROnERE DOES NOT EXISToEXI",
    "STShFOREfMODYNAMIChMETERjIN GREEK CROSSlSALTIREgPACEgKING FACEkRD PLACE MEDALpONG SANDALjUGH",
    "T BALLOONnREE BUTTON MOUSEmCONSECUTIVE EQUALS SIGNSyDIMENSIONAL ANGLEqOT PUNCTUATIONpLEFTWAR",
    "DS ARROWSpINES CONVERGING LEFTeRIGHTwNETWORKED COMPUTERStPOINTED BLACK STARsRAYS ABOVEfBELOW",
    "fLEFTeRIGHTjIGHTWARDS ARROWSrSPEECH BUBBLESp-D BOTTOM-LIGHTED RIGHTWARDS ARROWHEADzkLEFT-LIG",
    "HTED DOWNWARDS EQUILATERAL ARROWHEADztRIGHT-LIGHTED UPWARDS EQUILATERAL ARROWHEADzsTOP-LIGHT",
    "ED LEFTWARDS EQUILATERAL ARROWHEADzgRIGHTWARDS ARROWHEADjEQUILATERAL ARROWHEADzvEM DASHhPER-",
    "EM SPACEqUMBS DOWN SIGNjUP SIGNlNDER CLOUD AND RAINpSTORMlIBETAN ASTROLOGICAL SIGN -KHYUD PA",
    "jSDONG TSHUGSlGRA GCAN -CHAR RTAGSzoCANTILLATION SIGN CANG TE-UjHEAVY BEATkLIGHT BEATkSBUB -",
    "CHALzdDIGIT EIGHTfFIVEdOUReHALF EIGHTfFIVEdOUReNINEeONEdSEVENeIXdTHREEeWOdZEROjNINEeONEdSEVE",
    "NeIXdTHREEeWOdZEROkKU RU KHAa BZHI MIG CANwLETTER -AcAbBAbHAdCAbHAdDAbDAbHAdHAcZAbHAeFIXED-F",
    "ORM RAnGAbHAdHAcJAcKAbHAcKAcSSAeLAcMAcNAbGAcNAcYAdPAbHAdRAbRAdSAbHAcSAdTAbHAcSAbHAdTAbHAeWAc",
    "YAcZAbHAjOGOTYPE SIGN CHAD RTAGSkLHAG RTAGSyMARK ANG KHANG GYAScONoBKA- SHOG GI MGO RGYANmYI",
    "G MGOqSDUS RTAGSjKA- SHOG GI MGO RGYANuUR YIG MGOnCARET -DZUD RTAGS BZHI MIG CANmME LONG CAN",
    "xYIG MGO PHUR SHAD MAzHE MGOgLOSING BRDA RNYING YIG MGO SGAB MAzcYIG MGO SGAB MAxDELIMITER T",
    "SHEG BSTARvGTER TSHEGfYIG MGO -UM GTER TSHEG MAnRNAM BCAD MAqTRUNCATED AxUG RTAGS GYAScONoHA",
    "LANTAhINITIAL BRDA RNYING YIG MGO MDUN MAzcYIG MGO MDUN MAvTERSYLLABIC TSHEGtLEADING MCHAN R",
    "TAGStMNYAM YIG GI MGO RGYANwNGAS BZUNG NYI ZLAhSGOR RTAGSuYIS SHADeTSHEGa SHADpPALUTAgRGYA G",
    "RAM SHADnIN CHEN SPUNGS SHADuSBRUL SHADjHADeTRAILING MCHAN RTAGStSA -PHRUhHEG SHADkYIG MGO T",
    "SHEG SHAD MAzbSIGN GRU CAN RGYINGSlMED RGYINGSpINVERTED MCHU CANrLCE TSA CANjI RTAGSjMAR TSH",
    "ESiCHU CANiNYI ZLA NAA DAoRDEL DKAR GCIGdNYISeSUMeRDEL NAGnNAG GCIGdNYISeSUMeRDEL DKARrJES S",
    "U NGA ROnNAM BCADjSNA LDANiYANG RTAGSiR TSHESnUBJOINED LETTER -AcAbBAbHAdCAbHAdDAbDAbHAdHAcZ",
    "AbHAeFIXED-FORM RAcWAcYAnGAbHAdHAcJAcKAbHAcSSAeLAcMAcNAbGAcNAcYAdPAbHAdRAcSAbHAcSAdTAbHAcSAb",
    "HAdTAbHAeWAcYAcZAbHAkSIGN INVERTED MCHU CANrLCE TSA CANlMCHU CANwYLLABLE OMjMBOL DRIL BUhNOR",
    " BUa BZHI -KHYILlGSUM -KHYILlNYIS -KHYILsPADMA GDANjHUR PAhRDO RJEa RGYA GRAMyVOWEL SIGN AAc",
    "EaEcIaIcOaOcREVERSED IaIlUaUcVOCALIC LaLcRaRzcCKETeE OVER INFINITYpFINAGH CONSONANT JOINERqL",
    "ETTER AHAGGAR YAZHlYER YAGHjBERBER ACADEMY YAHbJsTAWELLEMET YAZnUAREG YAGHbNcHbKaHcNGcQbZHlY",
    "AaAbBaHcCHcDaDaHcHcFbGaHaHdHaHcJbKaHaHdLbMbNbPbQbRaRcSaHbScTaHbTcVbWbYbZaHbZdEaYcIbObUjMODIF",
    "IER LETTER LABIALIZATION MARKzjSEPARATOR MARKvGERa FACEhHT TRIFOLIATE SNOWFLAKEyLDEa OPERATO",
    "Ra ABOVE LEFTWARDS ARROWpRIGHTWARDS ARROWwWITH DOT ABOVEjRISING DOTSzWITH DOT ABOVEfBELOWjRI",
    "NG ABOVEtMER CLOCKhS WITH LEFT HALF BLACKpRIGHT HALF BLACKzNYa TWO DOTS OVER ONE DOT PUNCTUA",
    "TIONzlRED FACEhHUTA ABBREVIATION SIGNqNJIeDIGIT EIGHTfFIVEdOUReNINEeONEdSEVENeIXdTHREEeWOdZE",
    "ROkGVANGfLETTER AaAbIbUcBAbHAdCAbHAdDAbDAbHAdHAdEbGAbHAdHAcIaIcJAbHAdKAbHAdLAcMAcNAbGAcNAcYA",
    "dObPAbHAdRAcSAbHAcSAdTAbHAcTAbHAeUaUcVAbOCALIC LaLcRaRkYAjOMcSIGN ANUSVARAhVAGRAHAiCANDRABIN",
    "DUlNUKTAfVIRAMAeSARGAmVOWEL SIGN AAbIbUcEbIaIcObSHORT EbOhUaUcVOCALIC LaLcRaRzbONIAN SIGN CA",
    "PITAL ETkETpOILETeKYO TOWERjMATOeNGUEeOLBOXeTHaBRUSHiP ARC ANTICLOCKWISE ARROWa WITH PLUSzeC",
    "LOCKWISE ARROW WITH MINUSzfCURLY BRACKETnHALF BLACK CIRCLEmINTEGRALiLEFT PARENTHESISqRIGHT P",
    "ARENTHESISrSECTION SIGNpTdLEFT CORNERfROPeHALF BRACKETrPARENTHESISlRIGHT CORNERfROPeHALF BRA",
    "CKETsSQUARE BRACKEToTORTOISE SHELL BRACKETwWITH UPWARDS ARROW ABOVEzbRTOISE SHELL BRACKETED ",
    "CJK UNIFIED IDEOGRAPH-4E09c8Ce52DDdB89e6253d557d72Ce70B9d6D7zbLATIN CAPITAL LETTER SzuTAL RU",
    "NOUTjO LETTER AaEcBAbREATHY AEcEaOcIaUkCHAdDAcEaOcGAcHAcIaUcJAcKAcLAcMAcNAbGAdObPAcRAcSAcTAc",
    "UbWAcYAjSIGN RISING TONEuRACKBALLfTOReDE MARK SIGNmINcMa CARfNSPLUTOfVERSAL INTERSECTIONwIAN",
    "GLE WITH DOT ABOVEjROUNDED CORNERSpSERIFS AT BOTTOMqUNDERBARo-HEADED RIGHTWARDS ARROWzbULAR ",
    "BULLETgFLAG ON POSTmRULERnCOLONfDENT EMBLEMlGRAM FOR EARTHfFIREeHEAVENgLAKEeMOUNTAINiTHUNDER",
    "hWATEReINDnPLE COLON OPERATORoDAGGERgHORIZONTAL BAR WITH DOUBLE VERTICAL STROKEwTRIPLE VERTI",
    "CAL STROKEzrINTEGRALiNESTED GREATER-THANmLESS-THANqPLUSdRIMEfSOLIDUS BINARY RELATIONxTILDEfV",
    "ERTICAL BAR BINARY RELATIONpDELIMITERjRIGHT TURNSTILEpWITH HORIZONTAL STROKEzpOLLaEYBUShPHYc",
    "ICAL DRINKfFISHlUEa LIGHT MOON ARTArMPETgUGRIK SIGNjLIPdMBLER GLASSlRKEYcISH LIRA SIGNoNED A",
    "MPERSANDiNGLEfBLACK PENTAGONiSHOGI PIECErCAPITAL FiOMMAfDAGGERfIGIT THREEeWOjGREEK SMALL LET",
    "TER IOTAxNORTH EAST POINTING LEAFsWEST POINTING LEAFwT SIGNiOK HAND SIGNmSANS-SERIF CAPITAL ",
    "GbLbYtEMICOLONiMALL FgOUTH EAST POINTING LEAFsWEST POINTING LEAFyWHITE SHOGI PIECEvTLEfWELVE",
    " POINTED BLACK STARxISTED RIGHTWARDS ARROWSxO ASTERISKS ALIGNED VERTICALLYzdBUTTON MOUSEmCON",
    "SECUTIVE EQUALS SIGNSyDOT LEADERgPUNCTUATIONmS OVER ONE DOT PUNCTUATIONzeHEARTSgINTERSECTING",
    " LOGICAL ANDdORxJOINED SQUARESoLOGICAL AND OPERATORmOR OPERATORtMEN HOLDING HANDSrSPEECH BUB",
    "BLESoWOMEN HOLDING HANDSu-EM DASHlUGARITIC LETTER AINcLPAeBETAeDELTAeHALeGAMLAeHAINfHOaTAeIb",
    "KAFcHAdLAMDAfMEMdNUNdPUcQOPAeRASHAfSADEcMKAeHINdSUdTETcHANNAfOcUbWOcYODdZETAdUjWORD DIVIDERu",
    "MBRELLAa ON GROUNDjWITH RAIN DROPSxNAMUSED FACElCERTAINTY SIGNoDERTIEfO SYMBOLjICORN FACEjON",
    "a ABOVE BAR ABOVE INTERSECTIONwINTERSECTIONsBESIDE AND JOINED WITH UNIONzdWITH LOGICAL ORkMI",
    "NUS SIGNkOVERBARpT SEPARATORkED SYMBOLkVERSAL RECYCLING SYMBOLyMARRIED PARTNERSHIP SYMBOLzcP",
    " ARROW THROUGH CIRCLEpHEADa BETWEEN TWO HORIZONTAL BARSzcIN A RECTANGLE BOXzdBARB LEFT DOWN ",
    "BARB LEFT HARPOONmRIGHT HARPOONzdRIGHT DOWN BARB LEFT HARPOONmRIGHT HARPOONzjDOWN ARROWa WIT",
    "H BASEpBLACK ARROWlDOUBLE ARROWmSANS-SERIF ARROWqTRIANGLE-HEADED ARROWvWHITE ARROWqFISH TAIL",
    "jRIGHT DIAGONAL ELLIPSISxTACKa WITH CIRCLE ABOVEx-POINTING AIRPLANEiMILITARY AIRPLANErRED TR",
    "IANGLEmSMALL AIRPLANEiRED TRIANGLEsTRIANGLE WITH LEFT HALF BLACKpRIGHT HALF BLACKzpPER AND L",
    "EFT AND LOWER TRIANGULAR THREE QUARTERS BLOCKzuOWER ONE EIGHTH BLOCKqTRIANGULAR HALF BLOCKzc",
    "RIGHT AND LOWER TRIANGULAR THREE QUARTERS BLOCKzzbBLADE SCISSORSoFIVE EIGHTHS BLOCKsHALF BLO",
    "CKa AND LOWER HALF INVERSE MEDIUM SHADEzqCIRCLEgINVERSE MEDIUM SHADE AND LOWER HALF BLOCKziW",
    "HITE CIRCLEuMEDIUM SHADErLEFT BLOCK DIAGONAL LOWER CENTRE TO LOWER MIDDLE RIGHTsUPPER MIDDLE",
    " RIGHTmRIGHTvLEFT TO LOWER MIDDLE RIGHTsUPPER CENTREgMIDDLE RIGHTzbMIDDLE LEFT TO UPPER CENT",
    "REgMIDDLE RIGHTmRIGHTzhUPPER MIDDLE LEFT TO UPPER CENTREgRIGHTzwCORNER WITH DOTpOR LOWER RIG",
    "HT CURLY BRACKET SECTIONzlQUADRANT CIRCULAR ARCvTO LOWER RIGHT FILLsRIANGLEcULAR MEDIUM SHAD",
    "EzdONE EIGHTH BLOCKmQUARTER BLOCKrRIGHT BLOCK DIAGONAL LOWER MIDDLE LEFT TO LOWER CENTREgRIG",
    "HTzhUPPER CENTRE TO LOWER MIDDLE RIGHTmRIGHTlUPPER MIDDLE RIGHTzdLEFT TO LOWER CENTREgMIDDLE",
    " RIGHTsUPPER MIDDLE RIGHTzbMIDDLE LEFT TO LOWER CENTREgMIDDLE RIGHTmRIGHTzwDROP-SHADOWED WHI",
    "TE SQUAREzbOR LOWER LEFT CURLY BRACKET SECTIONzkPENCILgQUADRANT CIRCULAR ARCvSHADOWED WHITE ",
    "CIRCLEgSQUAREvTO LOWER LEFT FILLrRIANGLEcULAR MEDIUM SHADEzeSEVEN EIGHTHS BLOCKtTHREE EIGHTH",
    "S BLOCKnQUARTERS BLOCKtRIANGULAR ONE QUARTER BLOCKzhSIDE-DOWN FACEoWARDS ANCORAfRROWa AND RI",
    "GHT ONE EIGHTH BLOCKzbFROM BARiLEFTWARDS OF DOWNWARDS ARROWzdTO BARgWITH DOUBLE STROKEnEQUIL",
    "ATERAL ARROWHEADvHORIZONTAL STROKErLARGE TRIANGLE ARROWHEADyMEDIUM TRIANGLE ARROWHEADzNOTCHE",
    "D TAILmSMALL EQUILATERAL ARROWHEADvTRIANGLE ARROWHEADyTIP LEFTWARDSjRIGHTWARDSzBLACK ARROWfC",
    "IRCLED WHITE ARROWzCOMPRESSED ARROWqDASHED ARROWlOUBLE ARROWmFINGER-POST ARROWrHARPOON WITH ",
    "BARB LEFT BESIDE DOWNWARDS HARPOON WITH BARB RIGHTziUPWARDS HARPOON WITH BARB RIGHTznFROM BA",
    "RiTO BARhWARDSjRIGHT FROM BARiTO BARhWARDSzcEAVY ARROWfCOMPRESSED ARROWwPAIRED ARROWSnQUADRU",
    "PLE ARROWpROCKETgSANS-SERIF ARROWpQUARED ARROWnTRIANGLE ARROWHEADk-HEADED ARROWa LEFTWARDS O",
    "F DOWNWARDS TRIANGLE-HEADED ARROWztTO BARgWITH BOLD SHAFTkDOUBLE HORIZONTAL STROKEyHEAVY SHA",
    "FTlLONG TIP LEFTWARDSjRIGHTWARDStMEDIUM SHAFTmNARROW SHAFTmVERY HEAVY SHAFTzcDASHED ARROWmPA",
    "IRED ARROWSzbPLE ARROWlWO HEADED ARROWn-HEADED ARROW FROM SMALL CIRCLErWITH TRIANGLE ARROWHE",
    "ADSzqWHITE ARROWa FROM BARa WITH HORIZONTAL BARzdON PEDESTALa WITH HORIZONTAL BARoVERTICAL B",
    "ARzeWITHIN TRIANGLE ARROWHEADzgDOUBLE ARROWa ON PEDESTALzmRANUSfScVAI COMMAfDIGIT EIGHTfFIVE",
    "dOUReNINEeONEdSEVENeIXdTHREEeWOdZEROkFULL STOPjQUESTION MARKnSYLLABLE AaNcBAbEaEcHAbEaEcIbOa",
    "OcUcIbOaOcUcCAbEaEcIbOaOcUcDAbEaEcHAbEaEcHAbEaEcIbOaOcUcIbOaOcUcIbOaOcUcEaEaNcNcFAbEaEcIbOaO",
    "cUcGAbBAbEaEbNcIbOaNbOcUcEaEbNcIbOaOcUcHAaNcEaEbNcIaNcOaNbOcUaNdIaNcJAbEaEcIbOaOcUcKAaNcEaEc",
    "IbOaOcPAaNcEaEbNcIbOaOcUcUcLAbEaEbNGTHENERjIbOaOcUcMAbBAbEaEcIbOaOcUcEaEcGBAbEaEcIbOaOcUdIbO",
    "aOcUcNAbDAbEaEcIbOaLE DOcFAcKAcMAcSOOgOcUcEaEcGaANcENcGAbEaEbNcIbOaOcUcONdIbJAbEaEcIbOaOcUcO",
    "aOcUbYAbEaEcIbOaOcUdOaNbOaNdPAbEaEcIbOaOcUcRAbEaEcIbOaOcUcSAbEaEcHAbEaEcIbOaOcUcIbOaOcUcTAbE",
    "aEcHAbEaEcIbOaOcUcIbOaOcUcUaNcVAbEaEcIbOaOcUcWAaNcEaEaNcNcIaNcOaNbOaNdUaNdYAbEaEcIbOaOcUcZAb",
    "EaEcHAbEaEcIbOaOcUcIbOaOcUjMBOL BANGeDANGdO-OcONGfFAAcEENGfJONGeKEENGeUNGeNIIdTAAcINGdONGnMP",
    "IREfRIATION SELECTOR-1a0a0b1b2b3b4b5b6b7b8b9c1a0b1b2b3b4b5b6b7b8b9c2a0b1b2b3b4b5b6b7b8b9c3a0",
    "b1b2b3b4b5b6b7b8b9c4a0b1b2b3b4b5b6b7b8b9c5a0b1b2b3b4b5b6b7b8b9c6a0b1b2b3b4b5b6b7b8b9c7a0b1b2",
    "b3b4b5b6b7b8b9c8a0b1b2b3b4b5b6b7b8b9c9a0b1b2b3b4b5b6b7b8b9d2a0a0b1b2b3b4b5b6b7b8b9c1a0b1b2b3",
    "b4b5b6b7b8b9c2a0b1b2b3b4b5b6b7b8b9c3a0b1b2b3b4b5b6b7b8b9c4a0b1b2b3b4b5b6b7b8b9c5a0b1b2b3b4b5",
    "b6c6b7b8b9c3a0b1b2b3b4b5b6b7b8b9c4a0b1b2b3b4b5b6b7b8b9c5a0b1b2b3b4b5b6b7b8b9c6a0b1b2b3b4b5b6",
    "b7b8b9c7a0b1b2b3b4b5b6b7b8b9c8a0b1b2b3b4b5b6b7b8b9c9a0b1b2b3b4b5b6b7b8b9uECTOR OR CROSS PROD",
    "UCTvDIC SIGN ANUSVARA ANTARGOMUKHAmBAHIRGOMUKHAmUBHAYATO MUKHAoVAMAGOMUKHAa WITH TAILzeRDHAV",
    "ISARGAlTIKRAMAiDOUBLE ANUSVARA ANTARGOMUKHAzdHEXIFORM LONG ANUSVARAwJIHVAMULIYAlLONG ANUSVAR",
    "AnNIHSHVASAjREVERSED VISARGA ANUDATTAiUDATTAwOTATED ARDHAVISARGAtTHANG LONG ANUSVARAuTIRYAKg",
    "UPADHMANIYAlVISARGA ANUDATTAa WITH TAILsSVARITAhUDATTAa WITH TAILyYAJURVEDIC MIDLINE SVARITA",
    "zgTONE ATHARVAVEDIC INDEPENDENT SVARITAzhCANDRA ABOVEfBELOWmDOT BELOWhUBLE RING ABOVEkSVARIT",
    "AoKARSHANAgTHAKA ANUDATTAqPRENKHAhRIGVEDIC KASHMIRI INDEPENDENT SVARITAzkNG ABOVEkSHARAfTHRE",
    "E DOTS BELOWpRIPLE SVARITAnWO DOTS BELOWoYAJURVEDIC AGGRAVATED INDEPENDENT SVARITAzfINDEPEND",
    "ENT SVARITAtKATHAKA INDEPENDENT SVARITAa SCHROEDERzzhRSICLEfTICAL BAR BESIDE RIGHT TRIANGLEv",
    "DOUBLE LEFT TURNSTILEvTRIPLE RIGHT TURNSTILEwWITH HORIZONTAL STROKEzbELLIPSISiFOUR DOTSjIDEO",
    "GRAPHIC ITERATION MARKzbKANA REPEAT MARKa LOWER HALFkUPPER HALFpWITH VOICED SOUND MARKa UPPE",
    "R HALFzuLINEa EXTENSIONjWITH CIRCLE ABOVEfBELOWmMIDDLE DOTuMALE WITH STROKE SIGNvONE EIGHTH ",
    "BLOCK-2b3b4b5b6b7sSIX DOTSiTAB KEYeULATIONa SETnILDEeRAFFIC LIGHTnZIGZAG LINErY BOLD GREEK C",
    "ROSSqHEAVY EIGHT POINTED BLACK STARsSPOKED ASTERISKvFIVE SPOKED ASTERISKuGREEK CROSSlREVERSE",
    " SOLIDUSpSALTIREgIX SPOKED ASTERISKsOLIDUShWHITE CIRCLEgSQUAREsMUCH GREATER-THANmLESS-THANrS",
    "TAeIBRATION MODEmCTORY HANDkDEO CAMERAgGAMEfCASSETTElETNAMESE ALTERNATE READING MARK CAcNHAY",
    "zkWDATA SQUAREnOLINeRGOdTHKUQI CAPITAL LETTER AbBBEcEcCEbHEdDEbHEdEaIcFEcGAcHAbHAdIaJEdJEcKA",
    "cLAbLAdMEcNEbJEdObPEcQAcREcSEbHEdTEbHEdUbVEcXEcYbZErSMALL LETTER AbBBEcEcCEbHEdDEbHEdEaIcFEc",
    "GAcHAbHAdIaJEdJEcKAcLAbLAdMEcNEbJEdObPEcQAcREcSEbHEdTEbHEdUbVEcXEcYbZExOIDED GREEK CROSSqLCA",
    "NOeLEYBALLhUME INTEGRALoS1a0a0b1b2b3b4b5b6b7b8b9c1a0b1b2b3b4b5b6b7b8b9c2a0b1b2b3b4b5b6b7b8b9",
    "c3a0b1b2b3b4b5b6b7b8b9c4a0b1b2b3b4b5b6b7b8b9c5a0b1b2b3b4b5b6b7b8b9c6a0b1b2b3b4b5b6b7b8b9c7a0",
    "b1b2b3b4b5b6b7b8b9c8a0b1b2b3b4b5b6b7b8b9c9a0b1b2b3b4b5b6b7b8b9d2a0a0b1b2b3b4b5b6b7b8b9c1a0b1",
    "b2b3b4b5b6b7b8b9c2a0b1b2b3b4b5b6b7b8b9c3a0b1b2b3b4b5b6b7b8b9c4a0b1b2b3b4b5b6b7b8b9c5a0b1b2b3",
    "b4b5b6c6b7b8b9c3a0b1b2b3b4b5b6b7b8b9c4a0b1b2b3b4b5b6b7b8b9c5a0b1b2b3b4b5b6b7b8b9c6a0b1b2b3b4",
    "b5b6b7b8b9c7a0b1b2b3b4b5b6b7b8b9c8a0b1b2b3b4b5b6b7b8b9c9a0b1b2b3b4b5b6b7b8b9dTaScULCANUSfGAR",
    " FRACTION FIVE EIGHTHShSIXTHSkOUR FIFTHSlONE EIGHTHgFIFTHfHALFeNINTHfQUARTERhSEVENTHgIXTHfTE",
    "NTHeHIRDjSEVEN EIGHTHSnTHREE EIGHTHShFIFTHSgQUARTERSnWO FIFTHSgTHIRDSkZERO THIRDSzcWAFFLEeNC",
    "HO DIGIT EIGHTfFIVEdOUReNINEeONEdSEVENeIXdTHREEeWOdZEROkLETTER AaAaNaGdNGcUcBAcCAcDAcEaNcFAc",
    "GAcHAcIaNGdJAcKAbHAdLAbLHAeMAcNAbGAcYAdOaNaGdPAbHAdRAcSAbHAdTAbHAcRAcSAdUaENdVAcWAcYAbIHdZAj",
    "NGUN SIGNjTONE KOIaNIfTUPaNIoING CRESCENT MOON SYMBOLuGIBBOUS MOON SYMBOLyRANG CITI CAPITAL ",
    "LETTER AaMbNGcTcBUcDAcEaNNbYdGAcHARcIYOdOLOcRReIIcKOcNGAAdUNGeOaDDdPUcSIIcSUUeTTEdUCbUcVIYOe",
    "WIcYAbObUaJsDIGIT EIGHTfFIVEdOUReNINEeONEdSEVENeIXdTHREEeWOdZEROkNUMBER EIGHTYgFIFTYeORTYfNI",
    "NETYgSEVENTYgIXTYfTENcHIRTYfWENTYnOMcSMALL LETTER AaMbNGcTcBUcDAcEaNNbYdGAcHARcIYOdOLOcRReII",
    "cKOcNGAAdUNGeOaDDdPUcSIIcSUUeTTEdUCbUcVIYOeWIcYAbObUaJzNING SIGNkSTEBASKETjTCHcER BUFFALOhCL",
    "OSETgPOLOeWAVEfMELONiVE ARROW POINTING DIRECTLY LEFTeRIGHTzeDASHgING BLACK FLAGkHAND SIGNjWH",
    "ITE FLAGoY DASHeLINEdOW LINEiOVERLINElXING CRESCENT MOON SYMBOLuGIBBOUS MOON SYMBOLzEARY CAT",
    " FACEiFACEiDDINGeGE-TAILED RIGHTWARDS ARROWzcIERSTRASS ELLIPTIC FUNCTIONzbGHT LIFTERlST SYRI",
    "AC CROSSqHALEdEELa OF DHARMAkCHAIR SYMBOLpITE ARROW SHAFT WIDTH ONEdTWO THIRDSzdBULLETgCHESS",
    " BISHOPa ROTATED NINETY DEGREESoTWO HUNDRED SEVENTY DEGREESzrEQUIHOPPERa ROTATED NINETY DEGR",
    "EESziKINGa ROTATED NINETY DEGREESoTWO HUNDRED SEVENTY DEGREESzoNIGHTa ROTATED FORTY-FIVE DEG",
    "REESsNINETY DEGREESoONE HUNDRED THIRTY-FIVE DEGREESzgTHREE HUNDRED FIFTEEN DEGREESzdWO HUNDR",
    "ED SEVENTY DEGREESpTWENTY-FIVE DEGREESzp-BISHOPgQUEENfROOKlPAWNa ROTATED NINETY DEGREESoTWO ",
    "HUNDRED SEVENTY DEGREESzpQUEENa ROTATED NINETY DEGREESoTWO HUNDRED SEVENTY DEGREESzqROOKa RO",
    "TATED NINETY DEGREESoTWO HUNDRED SEVENTY DEGREESzpTURNED BISHOPgKINGdNIGHTgPAWNeQUEENfROOKqI",
    "RCLEa CONTAINING BLACK SMALL CIRCLEzeWITH DOT RIGHThWN ARROWkLOWER LEFT QUADRANTnRIGHT QUADR",
    "ANTuTWO DOTSiUPPER LEFT QUADRANTnRIGHT QUADRANTzgLUB SUITiONCAVE-SIDED DIAMONDa WITH LEFTWAR",
    "DS TICKoRIGHTWARDS TICKzrDIAMONDa CONTAINING BLACK MEDIUM DIAMONDoSMALL DIAMONDnVERY SMALL D",
    "IAMONDzkIN SQUAREjSUITeWITH CENTRED DOTxOWN POINTING BACKHAND INDEXoINDEXfLEFT HAND INDEXz-P",
    "OINTING SMALL TRIANGLEoTRIANGLEvRAUGHTS KINGeMANmEXCLAMATION MARK ORNAMENTzFLAGa WITH HORIZO",
    "NTAL MIDDLE BLACK STRIPEznORETTEfWERfOUR POINTED CUSPeSTARqROWNING FACEnHARD SHELL FLOPPY DI",
    "SKvEARTa SUIThVY CHECK MARKkSALTIRE WITH ROUNDED CORNERSzhXAGONgORIZONTAL ELLIPSEqURGLASSjLA",
    "RGE SQUAREkTIN CROSSkEFT LANE MERGEkPOINTING BACKHAND INDEXoINDEXp-POINTING POINTERhSMALL TR",
    "IANGLEoTRIANGLEvOZENGE CONTAINING BLACK SMALL LOZENGEznMEDIUM DIAMONDhLOZENGEhSMALL SQUARElQ",
    "UAREfTARkOON SELENAlNIBdPARALLELOGRAMmENNANTeTAGONiQUESTION MARK ORNAMENTwRECTANGLEiIGHT POI",
    "NTING BACKHAND INDEXoINDEXp-POINTING PENTAGONhOINTERhSMALL TRIANGLEoTRIANGLExSCISSORShESAME ",
    "DOTjHOGI PIECEkMALL LOZENGEhSQUAREfTARiILING FACElPADE SUITjQUAREa BUTTONgCONTAINING BLACK M",
    "EDIUM SQUAREnSMALL SQUAREmVERY SMALL SQUAREzjWITH CENTRE VERTICAL LINEuLEFTWARDS TICKnOWER L",
    "EFT QUADRANTnRIGHT QUADRANTuRIGHTWARDS TICKoOUNDED CORNERSpUPPER LEFT QUADRANTnRIGHT QUADRAN",
    "TuVERTICAL BISECTING LINEzjTARdUNa BEHIND CLOUDa WITH RAINwWITH RAYSeSMALL CLOUDuTELEPHONEiO",
    "UCHTONE TELEPHONEsRAPEZIUMhIANGLE CONTAINING SMALL WHITE TRIANGLEzoWO-WAY LEFT WAY TRAFFICyU",
    "P POINTING BACKHAND INDEXoINDEXp-POINTING CHEVRONhSMALL TRIANGLEoTRIANGLEa WITH DOTzeVERTICA",
    "L BARdELLIPSEhRECTANGLEpY SMALL SQUAREs-FEATHERED RIGHTWARDS ARROWzgIDE-HEADED DOWNWARDS BAR",
    "B ARROWkHEAVY BARB ARROWqLIGHT BARB ARROWqMEDIUM BARB ARROWrVERY HEAVY BARB ARROWzgLEFTWARDS",
    " BARB ARROWkHEAVY BARB ARROWqLIGHT BARB ARROWqMEDIUM BARB ARROWrVERY HEAVY BARB ARROWzgNORTH",
    " EAST BARB ARROWkHEAVY BARB ARROWqLIGHT BARB ARROWqMEDIUM BARB ARROWrVERY HEAVY BARB ARROWzb",
    "WEST BARB ARROWkHEAVY BARB ARROWqLIGHT BARB ARROWqMEDIUM BARB ARROWrVERY HEAVY BARB ARROWzhR",
    "IGHTWARDS BARB ARROWkHEAVY BARB ARROWqLIGHT BARB ARROWqMEDIUM BARB ARROWrVERY HEAVY BARB ARR",
    "OWzhSOUTH EAST BARB ARROWkHEAVY BARB ARROWqLIGHT BARB ARROWqMEDIUM BARB ARROWrVERY HEAVY BAR",
    "B ARROWzbWEST BARB ARROWkHEAVY BARB ARROWqLIGHT BARB ARROWqMEDIUM BARB ARROWrVERY HEAVY BARB",
    " ARROWzhUPWARDS BARB ARROWkHEAVY BARB ARROWqLIGHT BARB ARROWqMEDIUM BARB ARROWrVERY HEAVY BA",
    "RB ARROWzoGGLY VERTICAL LINEsLTED FLOWERlND BLOWING FACEmCHIMEgOWdE GLASShKING FACEkRED KEYB",
    "OARDnJbOLF FACEhMANa WITH BUNNY EARSqS BOOTSfCLOTHEShHATdSANDALkENS SYMBOLlN SIGNgODcRD JOIN",
    "ERgSEPARATOR MIDDLE DOTwLD MAPgMbRIED FACElRAPPED PRESENTnEATH PRODUCTlNCHdSTLERShITING HAND",
    "mX IN A RECTANGLE BOXt-RAYeIANGQI BLACK CANNONfHARIOThELEPHANTiGENERALhHORSEfMANDARINiSOLDIE",
    "RnRED CANNONfHARIOThELEPHANTiGENERALhHORSEfMANDARINiSOLDIERsORdYAWNING FACElELLOW HEARTkN SI",
    "GNgZIDI COMBINING HAMZA MARKkMADDA MARKuHYPHENATION MARKqLETTER BEcCHHIMdIMdIMdDADbLdELIFdTb",
    "WbYNdFAcGAFdHAYcHAdJAcKAFcHAFeLAMa WITH DOT ABOVEsMIMdNUNdOWcPEbHEdQAFdRAbHAdSADcEbHINdINdTA",
    "bHEdUMcVAa ALTERNATE FORMrWAWdXAbHEYNfYOTa WITH CIRCUMFLEX ABOVEzZAaLcEpI RADICAL BBUTdURdCH",
    "EcIPcUOPdYaPbTdDDURdUcGAbEPcGOPcUOdOTdHMOcXITcOPcUOeJJIEcUTcYcOcKEbITdLIaEcYRdMIbOPdNBIEdYIP",
    "cOPdZUPeOPcPUTcYTdQOTdSHATcOPcURcYcSIdTATcUcVEPcURdWOcYITcOcZAbOTcUPbRcZIETnSYLLABLE AaPbTbX",
    "cBAaPbTbXcBAaPbTbXcEaPbXcIaEaPbTbXcPbTbXcOaPbTbXcUaOaPbXcPbRaXcTbXcYaPbTbXdEaPbXcIaEaPbTbXcP",
    "bTbXcOaPbTbXcUaOaPbXcPbRaXcTbXcYaPbRaXcTbXdCAaPbTbXcEaPbXcHAaPbTbXcEaPbTbXcOaPbTbXcUaOaPbTbX",
    "cPbRaXcXcYaPbRaXcTbXdIaEaPbTbXcPbTbXcOaPbTbXcUaOaPbXcPbRaXcTbXcYaPbRaXcTbXdDAaPbTbXcDAaPbTbX",
    "cEaPbXcIaEaPbXcPbTbXcOaPbTbXcUaOaPbXcPbRaXcTbXdEaPbXcIaEaPbXcPbTbXcOaPbTbXcUaOaXcPbRaXcTbXdE",
    "aXcFAaPbTbXcIaPbTbXcOaPbXcUaPbRaXcTbXcYaPbTbXdGAaPbTbXcEaPbTbXcGAaPbTbXcEaPbTbXcIaEaPbXcTbXc",
    "OaPbTbXcUaOaPbTbXcPbRaXcTbXdIaEaPbTbXcPbTbXcOaPbTbXcUaOaPbTbXcPbRaXcTbXdHAaPbTbXcEaPbXcIEaXc",
    "TcLAaPbTbXcEaPbXcIaEaPbXcPbTbXcOaPbXcUaOaPbXcPbRaXcTbXcYaPbRaXcTbXdMAaPbTbXcIaEaPbXcPbTbXcOa",
    "PbTbXcUaOaPbXcPbRaXcTbXcYaPbRaXcXdNAaPbTbXcEaPbXcIaEaPbTbXcPbTbXcOPbTbXcUOaXcTdOaPbTbXcUOaPb",
    "TbXdXAaPbTbXcEaPbXcIaEaPbTbXcPbTbXcOaPbTbXcUOaPbTbXfIaEaPbTbXcPbTaERATION MARKnXcJIaEaPbTbXc",
    "PbTbXcJIaEaPbTbXcPbTbXcOaPbTbXcUaOaPbXcPbRaXcTbXcYaPbTbXdOaPbTbXcUaOaPbTbXcPbRaXcTbXcYaPbRaX",
    "cTbXdKAaPbTbXcEaPbTbXcIaEaPbXcPbTbXcOaPbTbXcUaOaPbXcPbRaXcTbXdLAaPbTbXcEaPbXcIaEaPbTbXcPbTbX",
    "cOaPbTbXcUaOaPbTbXcPbRaXcTbXcYaPbRaXcTbXdMAaPbTbXcEaXcGAaPbTbXcEaPbXcIEaXdOaPbTbXcUaOaPbXcPb",
    "RaXcTbXdIaEaPbXcPbTbXcOaPbTbXcUaOaPbTbXcPbRaXcTbXcYaPbTbXdNAaPbXcBAaPbTbXcIaEaPbXcPbTbXcOaPb",
    "TbXcUaPbRaXcTbXcYaPbRaXcTbXdDAaPbTbXcEaPbXcIaEaXcPbTbXcOaPbTbXcUaPbRaXcTbXdEaPbXcGAaPbTbXcEa",
    "PbXcIEaPbXdOaPbTbXcUOaTbXeIaEaPbXcPbTbXcJIaEaPbTbXcPbTbXcOaPbTbXcUaOaXcPbRaXcXcYaPbRaXcTbXdO",
    "aPbTbXcRAaPbTbXcEaPbTbXcOaPbXcUaPbRaXcTbXcYaPbRaXcTbXdUaOaPbXcPbRaXcTbXcYIaEaPbTbXcPbTbXcOaP",
    "bTbXcUaOaPbXcPbTbXdZAaPbTbXcEaXcIaEaPbXcPbTbXcOPbXcUaOaXcPbRaXcXcYaPbRaXcTbXeOaPbTbXcPAaPbTb",
    "XcIaEaPbXcPbTbXcOaPbTbXcUaOaPbXcPbRaXcTbXcYaPbRaXcTbXdQIaEaPbTbXcPbTbXcOaPbTbXcUaOaPbTbXcPbR",
    "aXcTbXcYaPbRaXcTbXdRAaPbTbXcEaPbXcOaPbTbXcRAaXcEaPbTbXcOaPbTbXcUaOaXcPbRaXcTbXcYaPbRaXcTbXdU",
    "aOaPbXcPbRaXcTbXcYaPbRaXcTbXdSAaPbTbXcEaPbXcHAaPbTbXcEaPbTbXcOaPbTbXcUaOaPbXcPbRaXcTbXcYaPbR",
    "aXcTbXdIaEaPbXcPbTbXcOaPbTbXcSAaPbTbXcEaPbXcIaEaPbXcPbTbXcOaPbTbXcUaPbTbXcYaPbRaXcTbXdUaOaPb",
    "XcPbRaXcTbXcYaPbRaXcTbXdTAaPbTbXcEaPbXcIaEaPbXcPbTbXcOaPbTbXcUaOaPbTbXcPbRaXcTbXdUOaPbXdVAaP",
    "bTbXcEPbXcIaEaPbTbXcPbTbXcOaPbTbXcUaPbRaXcTbXcYaPbRaXcTbXdWAaPbTbXcEaPbXcOaPbXcUaOaPbXeXIaEa",
    "PbTbXcPbTbXcOaPbTbXcUOaXdYaPbRaXcTbXdYIaEaPbTbXcPbTbXcOaPbTbXcUaOaPbTbXcPbRaXcTbXcYaPbRaXcTb",
    "XdZAaPbTbXcEaPbXcHAaPbTbXcEaPbTbXcOaPbTbXcUaOaPbXcPbRaXcTbXcYaPbRaXcTbXdIaEaPbXcPbTbXcOaPbTb",
    "XcUaOaPbXcPbRaXcTbXcYaPbRaXcTbXcZAaPbTbXcEaPbXcIaEaPbTbXcPbTbXcOaPbXcUaPbRaXcXcYaPbRaXcTbXoN",
    " YANGhO-YOfZ NOTATION BAG MEMBERSHIPoDOMAIN ANTIRESTRICTIONwLEFT BINDING BRACKETpIMAGE BRACK",
    "ETsRANGE ANTIRESTRICTIONuELATIONAL COMPOSITIONvIGHT BINDING BRACKETpIMAGE BRACKETtSCHEMA COM",
    "POSITIONlPIPINGfROJECTIONqPOTeTYPE COLONuANABAZAR SQUARE CLOSING DOUBLE-LINED HEAD MARKwHEAD",
    " MARKpUSTER-FINAL LETTER LAcRAcVAcYApINITIAL LETTER RAzFINAL CONSONANT MARKuINITIAL DOUBLE-L",
    "INED HEAD MARKwHEAD MARKrLETTER -AcAbBAbHAdCAbHAdDAbDAbHAdHAcZAbHAeGAbHAdHAcJAcKAbHAcSSAeLAc",
    "MAcNAbGAcNAcYAdPAbHAdRAcSAbHAcSAdTAbHAcSAbHAdTAbHAeVAcYAcZAbHAkMARK DOUBLE SHADlLONG TSHEGkS",
    "HADeTSHEGkSIGN ANUSVARAiCANDRA WITH ORNAMENToBINDUa WITH ORNAMENTzVIRAMAeSARGAlUBJOINERjVOWE",
    "L LENGTH MARKlSIGN AIbUcEbIbOaEcREVERSED IkUaEzeEBRA FACEiRO WIDTH JOINERgNO-BREAK SPACEmN-J",
    "OINERkSPACEoUSdIPPER-MOUTH FACEqNAMENNY COMBINING ATTACHING VERTICAL OMETxLOWER TONAL RANGE ",
    "INDICATORzcMARK BORZAYAhCHASHKAa POLNAYAoURVED OMETlDEMESTVENNY ZADERZHKAuVOETOCHIEkGORAZDO ",
    "NIZKO ON LEFTeRIGHTiS KRYZHEM ON LEFTeRIGHTyVYSOKOoKACHKAfRYZHa ON LEFTmUPNAYAhLOMKAfMALO PO",
    "VYSHE ON LEFTeRIGHTiS KHOKHLOM ON LEFTeRIGHTqRYZHEMiTRANNOuNIZKO ON LEFTeRIGHTiS KRYZHEM ON ",
    "LEFTeRIGHTyOBLACHKOhNbTSECHKAiPODCHASHIEa WITH VERTICAL STROKEzdVERTKAhVYSHE ON LEFTeRIGHTiS",
    " KHOKHLOM ON LEFTeRIGHTqRYZHEMiTRANNOpRAVNOdZSEKAhSKOBAeOROCHYA NOZHKAoREDNE ON LEFTeRIGHToT",
    "RANNO MALO POVYSHEuTIKHAYAgOCHKAfSATA ON LEFTeRIGHTiS KRYZHEMpUDARKAgVYSOKO ON LEFTeRIGHTiS ",
    "KHOKHLOM ON LEFTeRIGHTqRYZHEMqZADERZHKAiELOcVOKkTONAL RANGE MARK MRACHNOhSVETLOgTRESVETLOzlN",
    "EUME CHASHKAfELYUSTKAkDEMESTVENNY KLYUCHqRBITSAhOUBLE ZAPYATAYApUDAdVA V CHELNUmFITAeGOLUBCH",
    "IK BORZYfMRACHNYhSVETLYgTIKHYeRESVETLYtKHAMILOgLYUCHfOBYLAfRYUKa TIKHYiZHeUFISMAhMECHIKa KLY",
    "UCHENEPOSTOYANNYmPOVODNYhVOYkPOVODNYoNEMKAfOBLAKOfSOKAa KLYUCHEVAYA NEPOSTOYANNAYAoSVETLAYAt",
    "RYUKOVAYA SVETLAYAtSVETLAYAiTRESVETLAYArPALKAdRAKLITgUKdEREVODKAa NEPOSTOYANNAYAxODCHASHIEiL",
    "KULIZMYkREVERSED CHELYUSTKAsOGdSKAMEYTSA DVOECHELNAYA KLYUCHEVAYAlNEPOSTOYANNAYAoPROSTAYAiSV",
    "ETLAYAvKLYUCHENEPOSTOYANNAYAoVAYA SVETLAYAiTIKHAYAtMRACHNAYAjSVETLAYAiTIKHAYAgRESVETLAYAuLOZ",
    "HITIEa S KRYZHEMhZAPYATOYkZAKRYTOErTATYAa NEPOSTOYANNAYAoS DVUMYA ZAPYATYMIqKRYZHEMa I ZAPYA",
    "TOYsROGOMfZAPYATOYa I KRYZHEMhPODCHASHIEMyZAKRYTAYAa S ZAPYATOYzOPITSAa S OCHKOMiWITH SOROCH",
    "YA NOZHKAzcRELA DVOECHELNAYAa KLYUCHEVAYApOKRYZHEVAYAkPOVODNAYAa KLYUCHEVAYAzgGROMNAYAa WITH",
    " SINGLE ZAPYATAYAzbOKRYZHEVAYAa POVODNAYAuPOVODNAYAa WITH DOUBLE ZAPYATAYAqSINGLE ZAPYATAYAz",
    "lKLYUCHENEPOSTOYANNAYAoPOVODNAYApRYUKOVAYAa GROMNAYAa WITH SINGLE ZAPYATAYAzbOKRYZHEVAYAa PO",
    "VODNAYAuPOVODNAYAa WITH DOUBLE ZAPYATAYAqSINGLE ZAPYATAYAzlPOVODNAYAjTRYASKApZHEVAYAkMRACHNO",
    "TIKHAYAoNEPOSTOYANNAYAoPOLUPOVODNAYAlVODNAYAiROSTAYAiTIKHAYA PUTNAYAoRYASOGLASNAYAiPOVODNAYA",
    "jSTRELNAYAwVRAKHIYA KLYUCHEVAYA MRACHNAYAjPROSTAYAiSVETLAYAiTRESVETLAYAxMRACHNAYAjPROSTAYAiS",
    "VETLAYAiTRESVETLAYAuZANOZHEKgPYATAYAiMEYTSAnPRIZNAK MODIFIER DIRECTION FLIPoKRYZHfLEVEL-2b3h",
    "ROGzdOMBIEfWJbNBSPdJcSP"]

end Text

end ExperimentGroups
