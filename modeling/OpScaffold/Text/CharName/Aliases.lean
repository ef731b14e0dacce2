import OpScaffold.Text.CharName.Basic

/-!
# OpScaffold.Text.CharName.Aliases

Further names in Unicode 14: those of control characters, abbreviations and corrected names.
-/

namespace OpScaffold.CharName

/-- Names beside the names in the other tables, or in place of none. -/
def aliasNames : List NameRun := [
  ⟨0x0, "aNUL aSOH aSTART OF TEXT aEND OF TEXT cTRANSMISSION aENQ aACK aALERT aBACKSPACE
    aCHARACTER TABULATION aEND OF LINE aLINE TABULATION aFF aCARRIAGE RETURN aLOCKING-SHIFT ONE
    bZERO aDATA LINK ESCAPE aDC1 aDC2 aDC3 aDC4 aNAK aSYN aEND OF TRANSMISSION BLOCK aCAN
    aEND OF MEDIUM aSUB aESC aFILE SEPARATOR aGROUP SEPARATOR aINFORMATION SEPARATOR TWO cONE aSP"⟩,
  ⟨0x7f, "aDEL aPAD aHIGH OCTET PRESET aBPH aNBH aIND aNEL aSSA aEND OF SELECTED AREA
    aCHARACTER TABULATION SET cWITH JUSTIFICATION aLINE TABULATION SET aPARTIAL LINE DOWN
    cBACKWARD aREVERSE INDEX aSINGLE SHIFT TWO cTHREE aDCS aPRIVATE USE ONE cTWO
    aSET TRANSMIT STATE aCANCEL CHARACTER aMESSAGE WAITING aSPA aEND OF GUARDED AREA aSOS aSGC
    aSCI aCONTROL SEQUENCE INTRODUCER aST aOPERATING SYSTEM COMMAND aPM aAPC aNBSP"⟩,
  ⟨0xad, "aSHY"⟩,
  ⟨0x1a2, "aLATIN CAPITAL LETTER GHA bSMALL LETTER GHA"⟩,
  ⟨0x34f, "aCGJ"⟩,
  ⟨0x61c, "aALM"⟩,
  ⟨0x709, "aSYRIAC SUBLINEAR COLON SKEWED LEFT"⟩,
  ⟨0xcde, "aKANNADA LETTER LLLA"⟩,
  ⟨0xe9d, "aLAO LETTER FO FON"⟩,
  ⟨0xe9f, "aLAO LETTER FO FAY"⟩,
  ⟨0xea3, "aLAO LETTER RO"⟩,
  ⟨0xea5, "aLAO LETTER LO"⟩,
  ⟨0xfd0, "aTIBETAN MARK BKA- SHOG GI MGO RGYAN"⟩,
  ⟨0x11ec, "aHANGUL JONGSEONG YESIEUNG-KIYEOK cYESIEUNG-SSANGKIYEOK cSSANGYESIEUNG
    cYESIEUNG-KHIEUKH"⟩,
  ⟨0x180b, "aFVS1 aFVS2 aFVS3 aMVS aFVS4"⟩,
  ⟨0x200b, "aZWSP aZWNJ aZWJ aLRM aRLM"⟩,
  ⟨0x202a, "aLRE aRLE aPDF aLRO aRLO aNNBSP"⟩,
  ⟨0x205f, "aMMSP aWJ"⟩,
  ⟨0x2066, "aLRI aRLI aFSI aPDI"⟩,
  ⟨0x2118, "aWEIERSTRASS ELLIPTIC FUNCTION"⟩,
  ⟨0x2448, "aMICR ON US SYMBOL bDASH SYMBOL"⟩,
  ⟨0x2b7a, "aLEFTWARDS TRIANGLE-HEADED ARROW WITH DOUBLE VERTICAL STROKE"⟩,
  ⟨0x2b7c, "aRIGHTWARDS TRIANGLE-HEADED ARROW WITH DOUBLE VERTICAL STROKE"⟩,
  ⟨0xa015, "aYI SYLLABLE ITERATION MARK"⟩,
  ⟨0xaa6e, "aMYANMAR LETTER KHAMTI LLA"⟩,
  ⟨0xfe00, "aVS1 aVS2 aVS3 aVS4 aVS5 aVS6 aVS7 aVS8 aVS9 aVS10 aVS11 aVS12 aVS13 aVS14 aVS15
    aVS16"⟩,
  ⟨0xfe18, "aPRESENTATION FORM FOR VERTICAL RIGHT WHITE LENTICULAR BRACKET"⟩,
  ⟨0xfeff, "aBOM"⟩,
  ⟨0x122d4, "aCUNEIFORM SIGN NU11 TENU dOVER NU11 BUR OVER BUR"⟩,
  ⟨0x16e56, "aMEDEFAIDRIN CAPITAL LETTER H dNG"⟩,
  ⟨0x16e76, "aMEDEFAIDRIN SMALL LETTER H dNG"⟩,
  ⟨0x1b001, "aHENTAIGANA LETTER E-1"⟩,
  ⟨0x1d0c5, "aBYZANTINE MUSICAL SYMBOL FTHORA SKLIRON CHROMA VASIS"⟩,
  ⟨0xe0100, "aVS17 aVS18 aVS19 aVS20 aVS21 aVS22 aVS23 aVS24 aVS25 aVS26 aVS27 aVS28 aVS29 aVS30
    aVS31 aVS32 aVS33 aVS34 aVS35 aVS36 aVS37 aVS38 aVS39 aVS40 aVS41 aVS42 aVS43 aVS44 aVS45
    aVS46 aVS47 aVS48 aVS49 aVS50 aVS51 aVS52 aVS53 aVS54 aVS55 aVS56 aVS57 aVS58 aVS59 aVS60
    aVS61 aVS62 aVS63 aVS64 aVS65 aVS66 aVS67 aVS68 aVS69 aVS70 aVS71 aVS72 aVS73 aVS74 aVS75
    aVS76 aVS77 aVS78 aVS79 aVS80 aVS81 aVS82 aVS83 aVS84 aVS85 aVS86 aVS87 aVS88 aVS89 aVS90
    aVS91 aVS92 aVS93 aVS94 aVS95 aVS96 aVS97 aVS98 aVS99 aVS100 aVS101 aVS102 aVS103 aVS104
    aVS105 aVS106 aVS107 aVS108 aVS109 aVS110 aVS111 aVS112 aVS113 aVS114 aVS115 aVS116 aVS117
    aVS118 aVS119 aVS120 aVS121 aVS122 aVS123 aVS124 aVS125 aVS126 aVS127 aVS128 aVS129 aVS130
    aVS131 aVS132 aVS133 aVS134 aVS135 aVS136 aVS137 aVS138 aVS139 aVS140 aVS141 aVS142 aVS143
    aVS144 aVS145 aVS146 aVS147 aVS148 aVS149 aVS150 aVS151 aVS152 aVS153 aVS154 aVS155 aVS156
    aVS157 aVS158 aVS159 aVS160 aVS161 aVS162 aVS163 aVS164 aVS165 aVS166 aVS167 aVS168 aVS169
    aVS170 aVS171 aVS172 aVS173 aVS174 aVS175 aVS176 aVS177 aVS178 aVS179 aVS180 aVS181 aVS182
    aVS183 aVS184 aVS185 aVS186 aVS187 aVS188 aVS189 aVS190 aVS191 aVS192 aVS193 aVS194 aVS195
    aVS196 aVS197 aVS198 aVS199 aVS200 aVS201 aVS202 aVS203 aVS204 aVS205 aVS206 aVS207 aVS208
    aVS209 aVS210 aVS211 aVS212 aVS213 aVS214 aVS215 aVS216 aVS217 aVS218 aVS219 aVS220 aVS221
    aVS222 aVS223 aVS224 aVS225 aVS226 aVS227 aVS228 aVS229 aVS230 aVS231 aVS232 aVS233 aVS234
    aVS235 aVS236 aVS237 aVS238 aVS239 aVS240 aVS241 aVS242 aVS243 aVS244 aVS245 aVS246 aVS247
    aVS248 aVS249 aVS250 aVS251 aVS252 aVS253 aVS254 aVS255 aVS256"⟩,
  ⟨0x0, "aNULL aSTART OF HEADING aSTX aETX aEOT aENQUIRY aACKNOWLEDGE aBEL aBS
    aHORIZONTAL TABULATION aEOL aVERTICAL TABULATION aFORM FEED aCR aSHIFT OUT bIN aDLE
    aDEVICE CONTROL ONE cTWO cTHREE cFOUR aNEGATIVE ACKNOWLEDGE aSYNCHRONOUS IDLE aETB aCANCEL
    aEOM aSUBSTITUTE aESCAPE aFS aGS aRECORD SEPARATOR aUNIT SEPARATOR"⟩,
  ⟨0x7f, "aDELETE aPADDING CHARACTER aHOP aBREAK PERMITTED HERE aNO BREAK HERE aINDEX aNEXT LINE
    aSTART OF SELECTED AREA aESA aHORIZONTAL TABULATION SET cWITH JUSTIFICATION
    aVERTICAL TABULATION SET aPARTIAL LINE FORWARD cUP aREVERSE LINE FEED aSINGLE-SHIFT-2
    aSINGLE-SHIFT-3 aDEVICE CONTROL STRING aPRIVATE USE-1 bUSE-2 aSTS aCCH aMW
    aSTART OF GUARDED AREA aEND OF PROTECTED AREA aSTART OF STRING
    aSINGLE GRAPHIC CHARACTER INTRODUCER bCHARACTER INTRODUCER aCSI aSTRING TERMINATOR aOSC
    aPRIVACY MESSAGE aAPPLICATION PROGRAM COMMAND"⟩,
  ⟨0xfeff, "aBYTE ORDER MARK"⟩,
  ⟨0x9, "aHT aLF aVT"⟩,
  ⟨0xe, "aSO aSI"⟩,
  ⟨0x1c, "aINFORMATION SEPARATOR FOUR cTHREE aRS aUS"⟩,
  ⟨0x88, "aHTS aHTJ aVTS aPLD aPLU aRI aSS2 aSS3"⟩,
  ⟨0x91, "aPU1 aPU2"⟩,
  ⟨0x96, "aSTART OF PROTECTED AREA aEPA"⟩,
  ⟨0xfeff, "aZWNBSP"⟩,
  ⟨0x9, "aTAB aLINE FEED"⟩,
  ⟨0xa, "aNEW LINE"⟩,
  ⟨0xa, "aNL"⟩]

end OpScaffold.CharName
