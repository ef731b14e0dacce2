import OpScaffold.Text.CharName.Basic

/-!
# OpScaffold.Text.CharName.Historic

The names of historic scripts in Unicode 14.
-/

namespace OpScaffold.CharName

/-- Names of historic scripts. -/
def historicNames : List NameRun := [
  ⟨0x10000, "aLINEAR B SYLLABLE B008 A dB038 E dB028 I dB061 O dB010 U dB001 DA dB045 DE dB007 DI
    dB014 DO dB051 DU dB057 JA dB046 JE"⟩,
  ⟨0x1000d, "aLINEAR B SYLLABLE B036 JO dB065 JU dB077 KA dB044 KE dB067 KI dB070 KO dB081 KU
    dB080 MA dB013 ME dB073 MI dB015 MO dB023 MU dB006 NA dB024 NE dB030 NI dB052 NO dB055 NU
    dB003 PA dB072 PE dB039 PI dB011 PO dB050 PU dB016 QA dB078 QE dB021 QI dB032 QO"⟩,
  ⟨0x10028, "aLINEAR B SYLLABLE B060 RA dB027 RE dB053 RI dB002 RO dB026 RU dB031 SA dB009 SE
    dB041 SI dB012 SO dB058 SU dB059 TA dB004 TE dB037 TI dB005 TO dB069 TU dB054 WA dB075 WE
    dB040 WI dB042 WO"⟩,
  ⟨0x1003c, "aLINEAR B SYLLABLE B017 ZA dB074 ZE"⟩,
  ⟨0x1003f, "aLINEAR B SYLLABLE B020 ZO dB025 A2 dB043 A3 dB085 AU dB071 DWE dB090 DWO dB048 NWA
    dB029 PU2 dB062 PTE dB076 RA2 dB033 RA3 dB068 RO2 dB066 TA2 dB087 TWE dB091 TWO"⟩,
  ⟨0x10050, "aLINEAR B SYMBOL B018 dB019 dB022 dB034 dB047 dB049 dB056 dB063 dB064 dB079 dB082
    dB083 dB086 dB089"⟩,
  ⟨0x10080, "aLINEAR B IDEOGRAM B100 MAN dB102 WOMAN dB104 DEER dB105 EQUID dB105F MARE
    dB105M STALLION dB106F EWE dB106M RAM dB107F SHE-GOAT dB107M HE-GOAT dB108F SOW dB108M BOAR
    dB109F COW dB109M BULL dB120 WHEAT dB121 BARLEY dB122 OLIVE dB123 SPICE dB125 CYPERUS
    cMONOGRAM B127 KAPO dB128 KANAKO cIDEOGRAM B130 OIL dB131 WINE dB132 cMONOGRAM B133 AREPA
    dB135 MERI cIDEOGRAM B140 BRONZE dB141 GOLD dB142 dB145 WOOL dB146 dB150 dB151 HORN dB152
    dB153 dB154 cMONOGRAM B156 TURO2 cIDEOGRAM B157 dB158 dB159 CLOTH dB160 dB161 dB162 GARMENT
    dB163 ARMOUR dB164 dB165 dB166 dB167 dB168 dB169 dB170 dB171 dB172 dB173 MONTH dB174
    dB176 TREE dB177 dB178 dB179 dB180 dB181 dB182 dB183 dB184 dB185 dB189 dB190 dB191 HELMET
    dB220 FOOTSTOOL dB225 BATHTUB dB230 SPEAR dB231 ARROW dB232 dB233 SWORD dB234 dB236
    dB240 WHEELED CHARIOT dB241 CHARIOT dB242 CHARIOT FRAME dB243 WHEEL dB245 dB246
    cMONOGRAM B247 DIPTE cIDEOGRAM B248 dB249 dB251 dB252 dB253 dB254 DART dB255 dB256 dB257
    dB258 dB259 dVESSEL B155 eB200 eB201 eB202 eB203 eB204 eB205 eB206 eB207 eB208 eB209 eB210
    eB211 eB212 eB213 eB214 eB215 eB216 eB217 eB218 eB219 eB221 eB222 eB226 eB227 eB228 eB229
    eB250 eB305"⟩,
  ⟨0x10100, "aAEGEAN WORD SEPARATOR LINE dDOT bCHECK MARK"⟩,
  ⟨0x10107, "aAEGEAN NUMBER ONE cTWO cTHREE cFOUR cFIVE cSIX cSEVEN cEIGHT cNINE cTEN cTWENTY
    cTHIRTY cFORTY cFIFTY cSIXTY cSEVENTY cEIGHTY cNINETY cONE HUNDRED cTWO HUNDRED
    cTHREE HUNDRED cFOUR HUNDRED cFIVE HUNDRED cSIX HUNDRED cSEVEN HUNDRED cEIGHT HUNDRED
    cNINE HUNDRED cONE THOUSAND cTWO THOUSAND cTHREE THOUSAND cFOUR THOUSAND cFIVE THOUSAND
    cSIX THOUSAND cSEVEN THOUSAND cEIGHT THOUSAND cNINE THOUSAND cTEN THOUSAND cTWENTY THOUSAND
    cTHIRTY THOUSAND cFORTY THOUSAND cFIFTY THOUSAND cSIXTY THOUSAND cSEVENTY THOUSAND
    cEIGHTY THOUSAND cNINETY THOUSAND"⟩,
  ⟨0x10137, "aAEGEAN WEIGHT BASE UNIT cFIRST SUBUNIT cSECOND SUBUNIT cTHIRD SUBUNIT
    cFOURTH SUBUNIT bDRY MEASURE FIRST SUBUNIT bLIQUID MEASURE FIRST SUBUNIT
    bMEASURE SECOND SUBUNIT cTHIRD SUBUNIT aGREEK ACROPHONIC ATTIC ONE QUARTER eHALF eDRACHMA
    dFIVE dFIFTY dFIVE HUNDRED eTHOUSAND dFIFTY THOUSAND dFIVE TALENTS dTEN TALENTS
    dFIFTY TALENTS dONE HUNDRED TALENTS dFIVE HUNDRED TALENTS dONE THOUSAND TALENTS
    dFIVE THOUSAND TALENTS eSTATERS dTEN STATERS dFIFTY STATERS dONE HUNDRED STATERS
    dFIVE HUNDRED STATERS dONE THOUSAND STATERS dTEN THOUSAND STATERS dFIFTY THOUSAND STATERS
    dTEN MNAS cHERAEUM ONE PLETHRON cTHESPIAN ONE cHERMIONIAN ONE cEPIDAUREAN TWO cTHESPIAN TWO
    cCYRENAIC TWO DRACHMAS cEPIDAUREAN TWO DRACHMAS cTROEZENIAN FIVE dTEN eALTERNATE FORM
    cHERMIONIAN TEN cMESSENIAN TEN cTHESPIAN TEN dTHIRTY cTROEZENIAN FIFTY eALTERNATE FORM
    cHERMIONIAN FIFTY cTHESPIAN FIFTY dONE HUNDRED dTHREE HUNDRED cEPIDAUREAN FIVE HUNDRED
    cTROEZENIAN FIVE HUNDRED cTHESPIAN FIVE HUNDRED cCARYSTIAN FIVE HUNDRED cNAXIAN FIVE HUNDRED
    cTHESPIAN ONE THOUSAND dFIVE THOUSAND cDELPHIC FIVE MNAS cSTRATIAN FIFTY MNAS bONE HALF SIGN
    eALTERNATE FORM bTWO THIRDS SIGN bTHREE QUARTERS SIGN bYEAR SIGN bTALENT SIGN bDRACHMA SIGN
    bOBOL SIGN bTWO OBOLS SIGN bTHREE OBOLS SIGN bFOUR OBOLS SIGN bFIVE OBOLS SIGN bMETRETES SIGN
    bKYATHOS BASE SIGN bLITRA SIGN bOUNKIA SIGN bXESTES SIGN bARTABE SIGN bAROURA SIGN
    bGRAMMA SIGN bTRYBLION BASE SIGN bZERO SIGN bONE QUARTER SIGN bSINUSOID SIGN bINDICTION SIGN
    aNOMISMA SIGN"⟩,
  ⟨0x10190, "aROMAN SEXTANS SIGN bUNCIA SIGN bSEMUNCIA SIGN bSEXTULA SIGN bDIMIDIA SEXTULA SIGN
    bSILIQUA SIGN bDENARIUS SIGN bQUINARIUS SIGN bSESTERTIUS SIGN bDUPONDIUS SIGN bAS SIGN
    bCENTURIAL SIGN aASCIA SYMBOL"⟩,
  ⟨0x101a0, "aGREEK SYMBOL TAU RHO"⟩,
  ⟨0x101d0, "aPHAISTOS DISC SIGN PEDESTRIAN dPLUMED HEAD dTATTOOED HEAD dCAPTIVE dCHILD dWOMAN
    dHELMET dGAUNTLET dTIARA dARROW dBOW dSHIELD dCLUB dMANACLES dMATTOCK dSAW dLID dBOOMERANG
    dCARPENTRY PLANE dDOLIUM dCOMB dSLING dCOLUMN dBEEHIVE dSHIP dHORN dHIDE dBULLS LEG dCAT dRAM
    dEAGLE dDOVE dTUNNY dBEE dPLANE TREE dVINE dPAPYRUS dROSETTE dLILY dOX BACK dFLUTE dGRATER
    dSTRAINER dSMALL AXE dWAVY BAND dCOMBINING OBLIQUE STROKE"⟩,
  ⟨0x10280, "aLYCIAN LETTER A cE cB cBH cG cD cI cW cZ cTH cJ cK cQ cL cM cN cMM cNN cU cP cKK cR
    cS cT cTT cAN cEN cH cX"⟩,
  ⟨0x102a0, "aCARIAN LETTER A cP2 cD cL cUUU cR cLD cA2 cQ cB cM cO cD2 cT cSH cSH2 cS cC-18 cU
    cNN cX cN cTT2 cP cSS cI cE cUUUU cK cK2 cND cUU cG cG2 cST cST2 cNG cII cC-39 cTT cUUU2 cRR
    cMB cMB2 cMB3 cMB4 cLD2 cE2 cUUU3"⟩,
  ⟨0x102e0, "aCOPTIC EPACT THOUSANDS MARK cDIGIT ONE dTWO dTHREE dFOUR dFIVE dSIX dSEVEN dEIGHT
    dNINE cNUMBER TEN dTWENTY dTHIRTY dFORTY dFIFTY dSIXTY dSEVENTY dEIGHTY dNINETY dONE HUNDRED
    dTWO HUNDRED dTHREE HUNDRED dFOUR HUNDRED dFIVE HUNDRED dSIX HUNDRED dSEVEN HUNDRED
    dEIGHT HUNDRED dNINE HUNDRED"⟩,
  ⟨0x10300, "aOLD ITALIC LETTER A dBE dKE dDE dE dVE dZE dHE dTHE dI dKA dEL dEM dEN dESH dO dPE
    dSHE dKU dER dES dTE dU dEKS dPHE dKHE dEF dERS dCHE dII dUU dESS cNUMERAL ONE dFIVE dTEN
    dFIFTY"⟩,
  ⟨0x1032d, "aOLD ITALIC LETTER YE dNORTHERN TSE dSOUTHERN TSE aGOTHIC LETTER AHSA cBAIRKAN cGIBA
    cDAGS cAIHVUS cQAIRTHRA cIUJA cHAGL cTHIUTH cEIS cKUSMA cLAGUS cMANNA cNAUTHS cJER cURUS
    cPAIRTHRA cNINETY cRAIDA cSAUIL cTEIWS cWINJA cFAIHU cIGGWS cHWAIR cOTHAL cNINE HUNDRED"⟩,
  ⟨0x10350, "aOLD PERMIC LETTER AN dBUR dGAI dDOI dE dZHOI dDZHOI dZATA dDZITA dI dKOKE dLEI
    dMENOE dNENOE dVOOI dPEEI dREI dSII dTAI dU dCHERY dSHOOI dSHCHOOI dYRY dYERU dO dOO dEF dHA
    dTSIU dVER dYER dYERI dYAT dIE dYU dYA dIA aCOMBINING OLD PERMIC LETTER AN eDOI eZATA eNENOE
    eSII"⟩,
  ⟨0x10380, "aUGARITIC LETTER ALPA cBETA cGAMLA cKHA cDELTA cHO cWO cZETA cHOTA cTET cYOD cKAF
    cSHIN cLAMDA cMEM cDHAL cNUN cZU cSAMKA cAIN cPU cSADE cQOPA cRASHA cTHANNA cGHAIN cTO cI cU
    cSSU"⟩,
  ⟨0x1039f, "aUGARITIC WORD DIVIDER aOLD PERSIAN SIGN A dI dU dKA dKU dGA dGU dXA dCA dJA dJI dTA
    dTU dDA dDI dDU dTHA dPA dBA dFA dNA dNU dMA dMI dMU dYA dVA dVI dRA dRU dLA dSA dZA dSHA
    dSSA dHA"⟩,
  ⟨0x103c8, "aOLD PERSIAN SIGN AURAMAZDAA dAURAMAZDAA-2 dAURAMAZDAAHA dXSHAAYATHIYA dDAHYAAUSH
    dDAHYAAUSH-2 dBAGA dBUUMISH cWORD DIVIDER cNUMBER ONE dTWO dTEN dTWENTY dHUNDRED"⟩,
  ⟨0x10400, "aDESERET CAPITAL LETTER LONG I eE eA eAH eO eOO dSHORT I eE eA eAH eO eOO dAY dOW
    dWU dYEE dH dPEE dBEE dTEE dDEE dCHEE dJEE dKAY dGAY dEF dVEE dETH dTHEE dES dZEE dESH dZHEE
    dER dEL dEM dEN dENG dOI dEW bSMALL LETTER LONG I eE eA eAH eO eOO dSHORT I eE eA eAH eO eOO
    dAY dOW dWU dYEE dH dPEE dBEE dTEE dDEE dCHEE dJEE dKAY dGAY dEF dVEE dETH dTHEE dES dZEE
    dESH dZHEE dER dEL dEM dEN dENG dOI dEW aSHAVIAN LETTER PEEP cTOT cKICK cFEE cTHIGH cSO cSURE
    cCHURCH cYEA cHUNG cBIB cDEAD cGAG cVOW cTHEY cZOO cMEASURE cJUDGE cWOE cHA-HA cLOLL cMIME
    cIF cEGG cASH cADO cON cWOOL cOUT cAH cROAR cNUN cEAT cAGE cICE cUP cOAK cOOZE cOIL cAWE cARE
    cOR cAIR cERR cARRAY cEAR cIAN cYEW aOSMANYA LETTER ALEF cBA cTA cJA cXA cKHA cDEEL cRA cSA
    cSHIIN cDHA cCAYN cGA cFA cQAAF cKAAF cLAAN cMIIN cNUUN cWAW cHA cYA cA cE cI cO cU cAA cEE
    cOO"⟩,
  ⟨0x104a0, "aOSMANYA DIGIT ZERO cONE cTWO cTHREE cFOUR cFIVE cSIX cSEVEN cEIGHT cNINE"⟩,
  ⟨0x104b0, "aOSAGE CAPITAL LETTER A dAI dAIN dAH dBRA dCHA dEHCHA dE dEIN dHA dHYA dI dKA dEHKA
    dKYA dLA dMA dNA dO dOIN dPA dEHPA dSA dSHA dTA dEHTA dTSA dEHTSA dTSHA dDHA dU dWA dKHA dGHA
    dZA dZHA"⟩,
  ⟨0x104d8, "aOSAGE SMALL LETTER A dAI dAIN dAH dBRA dCHA dEHCHA dE dEIN dHA dHYA dI dKA dEHKA
    dKYA dLA dMA dNA dO dOIN dPA dEHPA dSA dSHA dTA dEHTA dTSA dEHTSA dTSHA dDHA dU dWA dKHA dGHA
    dZA dZHA"⟩,
  ⟨0x10500, "aELBASAN LETTER A cBE cCE cCHE cDE cNDE cDHE cEI cE cFE cGE cGJE cHE cI cJE cKE cLE
    cLLE cME cNE cNA cNJE cO cPE cQE cRE cRRE cSE cSHE cTE cTHE cU cVE cXE cY cZE cZHE cGHE
    cGHAMMA cKHE"⟩,
  ⟨0x10530, "aCAUCASIAN ALBANIAN LETTER ALT dBET dGIM dDAT dEB dZARL dEYN dZHIL dTAS dCHA dYOWD
    dZHA dIRB dSHA dLAN dINYA dXEYN dDYAN dCAR dJHOX dKAR dLYIT dHEYT dQAY dAOR dCHOY dCHI dCYAY
    dMAQ dQAR dNOWC dDZYAY dSHAK dJAYN dON dTYAY dFAM dDZAY dCHAT dPEN dGHEYS dRAT dSEYK dVEYZ
    dTIWR dSHOY dIWN dCYAW dCAYN dYAYD dPIWR dKIW"⟩,
  ⟨0x1056f, "aCAUCASIAN ALBANIAN CITATION MARK aVITHKUQI CAPITAL LETTER A dBBE dBE dCE dCHE dDE
    dDHE dEI dE dFE dGA"⟩,
  ⟨0x1057c, "aVITHKUQI CAPITAL LETTER HA dHHA dI dIJE dJE dKA dLA dLLA dME dNE dNJE dO dPE dQA
    dRE"⟩,
  ⟨0x1058c, "aVITHKUQI CAPITAL LETTER SE dSHE dTE dTHE dU dVE dXE"⟩,
  ⟨0x10594, "aVITHKUQI CAPITAL LETTER Y dZE"⟩,
  ⟨0x10597, "aVITHKUQI SMALL LETTER A dBBE dBE dCE dCHE dDE dDHE dEI dE dFE dGA"⟩,
  ⟨0x105a3, "aVITHKUQI SMALL LETTER HA dHHA dI dIJE dJE dKA dLA dLLA dME dNE dNJE dO dPE dQA dRE"⟩,
  ⟨0x105b3, "aVITHKUQI SMALL LETTER SE dSHE dTE dTHE dU dVE dXE"⟩,
  ⟨0x105bb, "aVITHKUQI SMALL LETTER Y dZE"⟩,
  ⟨0x10600, "aLINEAR A SIGN AB001 dAB002 dAB003 dAB004 dAB005 dAB006 dAB007 dAB008 dAB009 dAB010
    dAB011 dAB013 dAB016 dAB017 dAB020 dAB021 dAB021F dAB021M dAB022 dAB022F dAB022M dAB023
    dAB023M dAB024 dAB026 dAB027 dAB028 dA028B dAB029 dAB030 dAB031 dAB034 dAB037 dAB038 dAB039
    dAB040 dAB041 dAB044 dAB045 dAB046 dAB047 dAB048 dAB049 dAB050 dAB051 dAB053 dAB054 dAB055
    dAB056 dAB057 dAB058 dAB059 dAB060 dAB061 dAB065 dAB066 dAB067 dAB069 dAB070 dAB073 dAB074
    dAB076 dAB077 dAB078 dAB079 dAB080 dAB081 dAB082 dAB085 dAB086 dAB087 dA100-102 dAB118 dAB120
    dA120B dAB122 dAB123 dAB131A dAB131B dA131C dAB164 dAB171 dAB180 dAB188 dAB191 dA301 dA302
    dA303 dA304 dA305 dA306 dA307 dA308 dA309A dA309B dA309C dA310 dA311 dA312 dA313A dA313B
    dA313C dA314 dA315 dA316 dA317 dA318 dA319 dA320 dA321 dA322 dA323 dA324 dA325 dA326 dA327
    dA328 dA329 dA330 dA331 dA332 dA333 dA334 dA335 dA336 dA337 dA338 dA339 dA340 dA341 dA342
    dA343 dA344 dA345 dA346 dA347 dA348 dA349 dA350 dA351 dA352 dA353 dA354 dA355 dA356 dA357
    dA358 dA359 dA360 dA361 dA362 dA363 dA364 dA365 dA366 dA367 dA368 dA369 dA370 dA371 dA400-VAS
    dA401-VAS dA402-VAS dA403-VAS dA404-VAS dA405-VAS dA406-VAS dA407-VAS dA408-VAS dA409-VAS
    dA410-VAS dA411-VAS dA412-VAS dA413-VAS dA414-VAS dA415-VAS dA416-VAS dA417-VAS dA418-VAS
    dA501 dA502 dA503 dA504 dA505 dA506 dA508 dA509 dA510 dA511 dA512 dA513 dA515 dA516 dA520
    dA521 dA523 dA524 dA525 dA526 dA527 dA528 dA529 dA530 dA531 dA532 dA534 dA535 dA536 dA537
    dA538 dA539 dA540 dA541 dA542 dA545 dA547 dA548 dA549 dA550 dA551 dA552 dA553 dA554 dA555
    dA556 dA557 dA559 dA563 dA564 dA565 dA566 dA568 dA569 dA570 dA571 dA572 dA573 dA574 dA575
    dA576 dA577 dA578 dA579 dA580 dA581 dA582 dA583 dA584 dA585 dA586 dA587 dA588 dA589 dA591
    dA592 dA594 dA595 dA596 dA598 dA600 dA601 dA602 dA603 dA604 dA606 dA608 dA609 dA610 dA611
    dA612 dA613 dA614 dA615 dA616 dA617 dA618 dA619 dA620 dA621 dA622 dA623 dA624 dA626 dA627
    dA628 dA629 dA634 dA637 dA638 dA640 dA642 dA643 dA644 dA645 dA646 dA648 dA649 dA651 dA652
    dA653 dA654 dA655 dA656 dA657 dA658 dA659 dA660 dA661 dA662 dA663 dA664"⟩,
  ⟨0x10740, "aLINEAR A SIGN A701 A dA702 B dA703 D dA704 E dA705 F dA706 H dA707 J dA708 K
    dA709 L dA709-2 L2 dA709-3 L3 dA709-4 L4 dA709-6 L6 dA710 W dA711 X dA712 Y dA713 OMEGA
    dA714 ABB dA715 BB dA717 DD dA726 EYYY dA732 JE"⟩,
  ⟨0x10760, "aLINEAR A SIGN A800 dA801 dA802 dA803 dA804 dA805 dA806 dA807"⟩,
  ⟨0x10780, "aMODIFIER LETTER SMALL CAPITAL AA cSUPERSCRIPT TRIANGULAR COLON
    dHALF TRIANGULAR COLON cSMALL AE dCAPITAL B dB WITH HOOK"⟩,
  ⟨0x10787, "aMODIFIER LETTER SMALL DZ DIGRAPH fWITH RETROFLEX HOOK gCURL dDEZH DIGRAPH
    dD WITH TAIL fHOOK gAND TAIL dREVERSED E dCLOSED REVERSED OPEN E dFENG DIGRAPH dRAMS HORN
    dCAPITAL G dG WITH HOOK dCAPITAL G WITH HOOK dH WITH STROKE dCAPITAL H dHENG WITH HOOK
    dDOTLESS J WITH STROKE AND HOOK dLS DIGRAPH dLZ DIGRAPH dL WITH BELT dCAPITAL L WITH BELT
    dL WITH RETROFLEX HOOK AND BELT dLEZH eWITH RETROFLEX HOOK dTURNED Y fWITH BELT
    dO WITH STROKE dCAPITAL OE dCLOSED OMEGA dQ dTURNED R WITH LONG LEG iAND RETROFLEX HOOK
    dR WITH TAIL fFISHHOOK dCAPITAL R dTC DIGRAPH WITH CURL dTS DIGRAPH fWITH RETROFLEX HOOK
    dTESH DIGRAPH dT WITH RETROFLEX HOOK dV WITH RIGHT HOOK"⟩,
  ⟨0x107b2, "aMODIFIER LETTER SMALL CAPITAL Y cGLOTTAL STOP WITH STROKE
    cREVERSED GLOTTAL STOP WITH STROKE cBILABIAL CLICK cDENTAL CLICK cLATERAL CLICK
    cALVEOLAR CLICK cRETROFLEX CLICK WITH RETROFLEX HOOK cSMALL S WITH CURL"⟩,
  ⟨0x10800, "aCYPRIOT SYLLABLE A cE cI cO cU cJA"⟩,
  ⟨0x10808, "aCYPRIOT SYLLABLE JO"⟩,
  ⟨0x1080a, "aCYPRIOT SYLLABLE KA cKE cKI cKO cKU cLA cLE cLI cLO cLU cMA cME cMI cMO cMU cNA cNE
    cNI cNO cNU cPA cPE cPI cPO cPU cRA cRE cRI cRO cRU cSA cSE cSI cSO cSU cTA cTE cTI cTO cTU
    cWA cWE cWI cWO"⟩,
  ⟨0x10837, "aCYPRIOT SYLLABLE XA cXE"⟩,
  ⟨0x1083c, "aCYPRIOT SYLLABLE ZA"⟩,
  ⟨0x1083f, "aCYPRIOT SYLLABLE ZO aIMPERIAL ARAMAIC LETTER ALEPH dBETH dGIMEL dDALETH dHE dWAW
    dZAYIN dHETH dTETH dYODH dKAPH dLAMEDH dMEM dNUN dSAMEKH dAYIN dPE dSADHE dQOPH dRESH dSHIN
    dTAW"⟩,
  ⟨0x10857, "aIMPERIAL ARAMAIC SECTION SIGN cNUMBER ONE dTWO dTHREE dTEN dTWENTY dONE HUNDRED
    eTHOUSAND dTEN THOUSAND aPALMYRENE LETTER ALEPH cBETH cGIMEL cDALETH cHE cWAW cZAYIN cHETH
    cTETH cYODH cKAPH cLAMEDH cMEM cFINAL NUN cNUN cSAMEKH cAYIN cPE cSADHE cQOPH cRESH cSHIN
    cTAW bLEFT-POINTING FLEURON bRIGHT-POINTING FLEURON bNUMBER ONE cTWO cTHREE cFOUR cFIVE cTEN
    cTWENTY aNABATAEAN LETTER FINAL ALEPH cALEPH cFINAL BETH cBETH cGIMEL cDALETH cFINAL HE cHE
    cWAW cZAYIN cHETH cTETH cFINAL YODH cYODH cFINAL KAPH cKAPH cFINAL LAMEDH cLAMEDH cFINAL MEM
    cMEM cFINAL NUN cNUN cSAMEKH cAYIN cPE cSADHE cQOPH cRESH cFINAL SHIN cSHIN cTAW"⟩,
  ⟨0x108a7, "aNABATAEAN NUMBER ONE cTWO cTHREE cFOUR bCRUCIFORM NUMBER FOUR bNUMBER FIVE cTEN
    cTWENTY cONE HUNDRED"⟩,
  ⟨0x108e0, "aHATRAN LETTER ALEPH cBETH cGIMEL cDALETH-RESH cHE cWAW cZAYN cHETH cTETH cYODH
    cKAPH cLAMEDH cMEM cNUN cSAMEKH cAYN cPE cSADHE cQOPH"⟩,
  ⟨0x108f4, "aHATRAN LETTER SHIN cTAW"⟩,
  ⟨0x108fb, "aHATRAN NUMBER ONE cFIVE cTEN cTWENTY cONE HUNDRED aPHOENICIAN LETTER ALF cBET cGAML
    cDELT cHE cWAU cZAI cHET cTET cYOD cKAF cLAMD cMEM cNUN cSEMK cAIN cPE cSADE cQOF cROSH cSHIN
    cTAU bNUMBER ONE cTEN cTWENTY cONE HUNDRED cTWO cTHREE"⟩,
  ⟨0x1091f, "aPHOENICIAN WORD SEPARATOR aLYDIAN LETTER A cB cG cD cE cV cI cY cK cL cM cN cO cR
    cSS cT cU cF cQ cS cTT cAN cEN cLY cNN cC"⟩,
  ⟨0x1093f, "aLYDIAN TRIANGULAR MARK"⟩,
  ⟨0x10980, "aMEROITIC HIEROGLYPHIC LETTER A dE dI dO dYA dWA dBA dBA-2 dPA dMA dNA dNA-2 dNE
    dNE-2 dRA dRA-2 dLA dKHA dHHA dSA dSA-2 dSE dKA dQA dTA dTA-2 dTE dTE-2 dTO dDA cSYMBOL VIDJ
    dVIDJ-2 bCURSIVE LETTER A dE dI dO dYA dWA dBA dPA dMA dNA dNE dRA dLA dKHA dHHA dSA
    dARCHAIC SA dSE dKA dQA dTA dTE dTO dDA"⟩,
  ⟨0x109bc, "aMEROITIC CURSIVE FRACTION ELEVEN TWELFTHS dONE HALF cLOGOGRAM RMT dIMN cNUMBER ONE
    dTWO dTHREE dFOUR dFIVE dSIX dSEVEN dEIGHT dNINE dTEN dTWENTY dTHIRTY dFORTY dFIFTY dSIXTY
    dSEVENTY"⟩,
  ⟨0x109d2, "aMEROITIC CURSIVE NUMBER ONE HUNDRED dTWO HUNDRED dTHREE HUNDRED dFOUR HUNDRED
    dFIVE HUNDRED dSIX HUNDRED dSEVEN HUNDRED dEIGHT HUNDRED dNINE HUNDRED dONE THOUSAND
    dTWO THOUSAND dTHREE THOUSAND dFOUR THOUSAND dFIVE THOUSAND dSIX THOUSAND dSEVEN THOUSAND
    dEIGHT THOUSAND dNINE THOUSAND dTEN THOUSAND dTWENTY THOUSAND dTHIRTY THOUSAND
    dFORTY THOUSAND dFIFTY THOUSAND dSIXTY THOUSAND dSEVENTY THOUSAND dEIGHTY THOUSAND
    dNINETY THOUSAND dONE HUNDRED THOUSAND dTWO HUNDRED THOUSAND dTHREE HUNDRED THOUSAND
    dFOUR HUNDRED THOUSAND dFIVE HUNDRED THOUSAND dSIX HUNDRED THOUSAND dSEVEN HUNDRED THOUSAND
    dEIGHT HUNDRED THOUSAND dNINE HUNDRED THOUSAND cFRACTION ONE TWELFTH dTWO TWELFTHS
    dTHREE TWELFTHS dFOUR TWELFTHS dFIVE TWELFTHS dSIX TWELFTHS dSEVEN TWELFTHS dEIGHT TWELFTHS
    dNINE TWELFTHS dTEN TWELFTHS aKHAROSHTHI LETTER A bVOWEL SIGN I dU dVOCALIC R"⟩,
  ⟨0x10a05, "aKHAROSHTHI VOWEL SIGN E dO"⟩,
  ⟨0x10a0c, "aKHAROSHTHI VOWEL LENGTH MARK bSIGN DOUBLE RING BELOW cANUSVARA cVISARGA bLETTER KA
    cKHA cGA cGHA"⟩,
  ⟨0x10a15, "aKHAROSHTHI LETTER CA cCHA cJA"⟩,
  ⟨0x10a19, "aKHAROSHTHI LETTER NYA cTTA cTTHA cDDA cDDHA cNNA cTA cTHA cDA cDHA cNA cPA cPHA cBA
    cBHA cMA cYA cRA cLA cVA cSHA cSSA cSA cZA cHA cKKA cTTTHA cTTTA cVHA"⟩,
  ⟨0x10a38, "aKHAROSHTHI SIGN BAR ABOVE cCAUDA cDOT BELOW"⟩,
  ⟨0x10a3f, "aKHAROSHTHI VIRAMA bDIGIT ONE cTWO cTHREE cFOUR bNUMBER TEN cTWENTY cONE HUNDRED
    dTHOUSAND bFRACTION ONE HALF"⟩,
  ⟨0x10a50, "aKHAROSHTHI PUNCTUATION DOT cSMALL CIRCLE cCIRCLE cCRESCENT BAR cMANGALAM cLOTUS
    cDANDA cDOUBLE DANDA cLINES"⟩,
  ⟨0x10a60, "aOLD SOUTH ARABIAN LETTER HE eLAMEDH eHETH eMEM eQOPH eWAW eSHIN eRESH eBETH eTAW
    eSAT eKAPH eNUN eKHETH eSADHE eSAMEKH eFE eALEF eAYN eDHADHE eGIMEL eDALETH eGHAYN eTETH
    eZAYN eDHALETH eYODH eTHAW eTHETH dNUMBER ONE eFIFTY dNUMERIC INDICATOR
    bNORTH ARABIAN LETTER HEH eLAM eHAH eMEEM eQAF eWAW eES-2 eREH eBEH eTEH eES-1 eKAF eNOON
    eKHAH eSAD eES-3 eFEH eALEF eAIN eDAD eGEEM eDAL eGHAIN eTAH eZAIN eTHAL eYEH eTHEH eZAH
    dNUMBER ONE eTEN eTWENTY"⟩,
  ⟨0x10ac0, "aMANICHAEAN LETTER ALEPH cBETH cBHETH cGIMEL cGHIMEL cDALETH cHE cWAW bSIGN UD
    bLETTER ZAYIN cZHAYIN cJAYIN cJHAYIN cHETH cTETH cYODH cKAPH cXAPH cKHAPH cLAMEDH cDHAMEDH
    cTHAMEDH cMEM cNUN cSAMEKH cAYIN cAAYIN cPE cFE cSADHE cQOPH cXOPH cQHOPH cRESH cSHIN cSSHIN
    cTAW bABBREVIATION MARK ABOVE dBELOW"⟩,
  ⟨0x10aeb, "aMANICHAEAN NUMBER ONE cFIVE cTEN cTWENTY cONE HUNDRED bPUNCTUATION STAR cFLEURON
    cDOUBLE DOT WITHIN DOT cDOT WITHIN DOT d cTWO DOTS cLINE FILLER"⟩,
  ⟨0x10b00, "aAVESTAN LETTER A cAA cAO cAAO cAN cAAN cAE cAEE cE cEE cO cOO cI cII cU cUU cKE cXE
    cXYE cXVE cGE cGGE cGHE cCE cJE cTE cTHE cDE cDHE cTTE cPE cFE cBE cBHE cNGE cNGYE cNGVE cNE
    cNYE cNNE cME cHME cYYE cYE cVE cRE cLE cSE cZE cSHE cZHE cSHYE cSSHE cHE"⟩,
  ⟨0x10b39, "aAVESTAN ABBREVIATION MARK aTINY TWO DOTS OVER ONE DOT PUNCTUATION
    aSMALL TWO DOTS OVER ONE DOT PUNCTUATION aLARGE TWO DOTS OVER ONE DOT PUNCTUATION
    bONE DOT OVER TWO DOTS PUNCTUATION bTWO RINGS OVER ONE RING PUNCTUATION
    bONE RING OVER TWO RINGS PUNCTUATION aINSCRIPTIONAL PARTHIAN LETTER ALEPH dBETH dGIMEL
    dDALETH dHE dWAW dZAYIN dHETH dTETH dYODH dKAPH dLAMEDH dMEM dNUN dSAMEKH dAYIN dPE dSADHE
    dQOPH dRESH dSHIN dTAW"⟩,
  ⟨0x10b58, "aINSCRIPTIONAL PARTHIAN NUMBER ONE dTWO dTHREE dFOUR dTEN dTWENTY dONE HUNDRED
    eTHOUSAND bPAHLAVI LETTER ALEPH dBETH dGIMEL dDALETH dHE dWAW-AYIN-RESH dZAYIN dHETH dTETH
    dYODH dKAPH dLAMEDH dMEM-QOPH dNUN dSAMEKH dPE dSADHE dSHIN dTAW"⟩,
  ⟨0x10b78, "aINSCRIPTIONAL PAHLAVI NUMBER ONE dTWO dTHREE dFOUR dTEN dTWENTY dONE HUNDRED
    eTHOUSAND aPSALTER PAHLAVI LETTER ALEPH dBETH dGIMEL dDALETH dHE dWAW-AYIN-RESH dZAYIN dHETH
    dYODH dKAPH dLAMEDH dMEM-QOPH dNUN dSAMEKH dPE dSADHE dSHIN dTAW"⟩,
  ⟨0x10b99, "aPSALTER PAHLAVI SECTION MARK cTURNED SECTION MARK cFOUR DOTS WITH CROSS fDOT"⟩,
  ⟨0x10ba9, "aPSALTER PAHLAVI NUMBER ONE dTWO dTHREE dFOUR dTEN dTWENTY dONE HUNDRED"⟩,
  ⟨0x10c00, "aOLD TURKIC LETTER ORKHON A dYENISEI A eAE dORKHON I dYENISEI I eE dORKHON O eOE
    dYENISEI OE dORKHON AB dYENISEI AB dORKHON AEB dYENISEI AEB dORKHON AG dYENISEI AG
    dORKHON AEG dYENISEI AEG dORKHON AD dYENISEI AD dORKHON AED eEZ dYENISEI EZ dORKHON AY
    dYENISEI AY dORKHON AEY dYENISEI AEY dORKHON AEK dYENISEI AEK dORKHON OEK dYENISEI OEK
    dORKHON AL dYENISEI AL dORKHON AEL eELT eEM eAN eAEN dYENISEI AEN dORKHON ENT dYENISEI ENT
    dORKHON ENC dYENISEI ENC dORKHON ENY dYENISEI ENY eANG dORKHON ENG dYENISEI AENG dORKHON EP
    eOP eIC eEC dYENISEI EC dORKHON AQ dYENISEI AQ dORKHON IQ dYENISEI IQ dORKHON OQ dYENISEI OQ
    dORKHON AR dYENISEI AR dORKHON AER eAS eAES eASH dYENISEI ASH dORKHON ESH dYENISEI ESH
    dORKHON AT dYENISEI AT dORKHON AET dYENISEI AET dORKHON OT eBASH"⟩,
  ⟨0x10c80, "aOLD HUNGARIAN CAPITAL LETTER A eAA eEB eAMB eEC eENC eECS eED eAND eE eCLOSE E eEE
    eEF eEG eEGY eEH eI eII eEJ eEK eAK eUNK eEL eELY eEM eEN eENY eO eOO eNIKOLSBURG OE
    eRUDIMENTA OE eOEE eEP eEMP eER eSHORT ER eES eESZ eET eENT eETY eECH eU eUU eNIKOLSBURG UE
    eRUDIMENTA UE eEV eEZ eEZS eENT-SHAPED SIGN eUS"⟩,
  ⟨0x10cc0, "aOLD HUNGARIAN SMALL LETTER A eAA eEB eAMB eEC eENC eECS eED eAND eE eCLOSE E eEE
    eEF eEG eEGY eEH eI eII eEJ eEK eAK eUNK eEL eELY eEM eEN eENY eO eOO eNIKOLSBURG OE
    eRUDIMENTA OE eOEE eEP eEMP eER eSHORT ER eES eESZ eET eENT eETY eECH eU eUU eNIKOLSBURG UE
    eRUDIMENTA UE eEV eEZ eEZS eENT-SHAPED SIGN eUS"⟩,
  ⟨0x10cfa, "aOLD HUNGARIAN NUMBER ONE dFIVE dTEN dFIFTY dONE HUNDRED eTHOUSAND
    aHANIFI ROHINGYA LETTER A dBA dPA dTA dTTA dJA dCA dHA dKHA dFA dDA dDDA dRA dRRA dZA dSA
    dSHA dKA dGA dLA dMA dNA dWA dKINNA WA dYA dKINNA YA dNGA dNYA dVA cVOWEL A dI dU dE dO
    cMARK SAKIN dNA KHONNA cSIGN HARBAHAY dTAHALA dTANA dTASSI"⟩,
  ⟨0x10d30, "aHANIFI ROHINGYA DIGIT ZERO dONE dTWO dTHREE dFOUR dFIVE dSIX dSEVEN dEIGHT dNINE"⟩,
  ⟨0x10e60, "aRUMI DIGIT ONE cTWO cTHREE cFOUR cFIVE cSIX cSEVEN cEIGHT cNINE bNUMBER TEN cTWENTY
    cTHIRTY cFORTY cFIFTY cSIXTY cSEVENTY cEIGHTY cNINETY cONE HUNDRED cTWO HUNDRED
    cTHREE HUNDRED cFOUR HUNDRED cFIVE HUNDRED cSIX HUNDRED cSEVEN HUNDRED cEIGHT HUNDRED
    cNINE HUNDRED bFRACTION ONE HALF dQUARTER dTHIRD cTWO THIRDS"⟩,
  ⟨0x10e80, "aYEZIDI LETTER ELIF cBE cPE cPHE cTHE cSE cCIM cCHIM cCHHIM cHHA cXA cDAL cZAL cRA
    cRHA cZA cJA cSIN cSHIN cSAD cDAD cTA cZE cEYN cXHEYN cFA cVA dALTERNATE FORM cQAF cKAF cKHAF
    cGAF cLAM cMIM cNUN cUM cWAW cOW cEW cHAY cYOT cET"⟩,
  ⟨0x10eab, "aYEZIDI COMBINING HAMZA MARK cMADDA MARK bHYPHENATION MARK"⟩,
  ⟨0x10eb0, "aYEZIDI LETTER LAM WITH DOT ABOVE cYOT WITH CIRCUMFLEX ABOVE"⟩,
  ⟨0x10f00, "aOLD SOGDIAN LETTER ALEPH dFINAL ALEPH dBETH dFINAL BETH dGIMEL dHE dFINAL HE dWAW
    dZAYIN dHETH dYODH dKAPH dLAMEDH dMEM dNUN dFINAL NUN fWITH VERTICAL TAIL dSAMEKH dAYIN
    dALTERNATE AYIN dPE dSADHE dFINAL SADHE fWITH VERTICAL TAIL dRESH-AYIN-DALETH dSHIN dTAW
    dFINAL TAW fWITH VERTICAL TAIL cNUMBER ONE dTWO dTHREE dFOUR dFIVE dTEN dTWENTY dTHIRTY
    dONE HUNDRED cFRACTION ONE HALF cLIGATURE AYIN-DALETH"⟩,
  ⟨0x10f30, "aSOGDIAN LETTER ALEPH cBETH cGIMEL cHE cWAW cZAYIN cHETH cYODH cKAPH cLAMEDH cMEM
    cNUN cSAMEKH cAYIN cPE cSADHE cRESH-AYIN cSHIN cTAW cFETH cLESH bINDEPENDENT SHIN
    bCOMBINING DOT BELOW cTWO DOTS BELOW cDOT ABOVE cTWO DOTS ABOVE cCURVE ABOVE dBELOW
    cHOOK ABOVE dBELOW cLONG HOOK BELOW cRESH BELOW cSTROKE BELOW bNUMBER ONE cTEN cTWENTY
    cONE HUNDRED bPUNCTUATION TWO VERTICAL BARS fWITH DOTS cCIRCLE WITH DOT
    cTWO CIRCLES WITH DOTS cHALF CIRCLE WITH DOT"⟩,
  ⟨0x10f70, "aOLD UYGHUR LETTER ALEPH dBETH dGIMEL-HETH dWAW dZAYIN dFINAL HETH dYODH dKAPH
    dLAMEDH dMEM dNUN dSAMEKH dPE dSADHE dRESH dSHIN dTAW dLESH cCOMBINING DOT ABOVE eBELOW
    dTWO DOTS ABOVE fBELOW cPUNCTUATION BAR dTWO BARS eDOTS dFOUR DOTS"⟩,
  ⟨0x10fb0, "aCHORASMIAN LETTER ALEPH cSMALL ALEPH cBETH cGIMEL cDALETH cHE cWAW cCURLED WAW
    cZAYIN cHETH cYODH cKAPH cLAMEDH cMEM cNUN cSAMEKH cAYIN cPE cRESH cSHIN cTAW bNUMBER ONE
    cTWO cTHREE cFOUR cTEN cTWENTY cONE HUNDRED"⟩,
  ⟨0x10fe0, "aELYMAIC LETTER ALEPH cBETH cGIMEL cDALETH cHE cWAW cZAYIN cHETH cTETH cYODH cKAPH
    cLAMEDH cMEM cNUN cSAMEKH cAYIN cPE cSADHE cQOPH cRESH cSHIN cTAW bLIGATURE ZAYIN-YODH"⟩,
  ⟨0x11000, "aBRAHMI SIGN CANDRABINDU cANUSVARA cVISARGA cJIHVAMULIYA cUPADHMANIYA bLETTER A cAA
    cI cII cU cUU cVOCALIC R dRR dL dLL cE cAI cO cAU cKA cKHA cGA cGHA cNGA cCA cCHA cJA cJHA
    cNYA cTTA cTTHA cDDA cDDHA cNNA cTA cTHA cDA cDHA cNA cPA cPHA cBA cBHA cMA cYA cRA cLA cVA
    cSHA cSSA cSA cHA cLLA cOLD TAMIL LLLA eRRA eNNNA bVOWEL SIGN AA dBHATTIPROLU AA dI dII dU
    dUU dVOCALIC R eRR eL eLL dE dAI dO dAU bVIRAMA bDANDA bDOUBLE DANDA bPUNCTUATION DOT
    cDOUBLE DOT cLINE cCRESCENT BAR cLOTUS"⟩,
  ⟨0x11052, "aBRAHMI NUMBER ONE cTWO cTHREE cFOUR cFIVE cSIX cSEVEN cEIGHT cNINE cTEN cTWENTY
    cTHIRTY cFORTY cFIFTY cSIXTY cSEVENTY cEIGHTY cNINETY cONE HUNDRED dTHOUSAND bDIGIT ZERO cONE
    cTWO cTHREE cFOUR cFIVE cSIX cSEVEN cEIGHT cNINE bSIGN OLD TAMIL VIRAMA
    bLETTER OLD TAMIL SHORT E fO bVOWEL SIGN OLD TAMIL SHORT E gO bLETTER OLD TAMIL LLA"⟩,
  ⟨0x1107f, "aBRAHMI NUMBER JOINER aKAITHI SIGN CANDRABINDU cANUSVARA cVISARGA bLETTER A cAA cI
    cII cU cUU cE cAI cO cAU cKA cKHA cGA cGHA cNGA cCA cCHA cJA cJHA cNYA cTTA cTTHA cDDA cDDDHA
    cDDHA cRHA cNNA cTA cTHA cDA cDHA cNA cPA cPHA cBA cBHA cMA cYA cRA cLA cVA cSHA cSSA cSA cHA
    bVOWEL SIGN AA dI dII dU dUU dE dAI dO dAU bSIGN VIRAMA cNUKTA bABBREVIATION SIGN
    bENUMERATION SIGN bNUMBER SIGN bSECTION MARK bDOUBLE SECTION MARK bDANDA bDOUBLE DANDA
    bVOWEL SIGN VOCALIC R"⟩,
  ⟨0x110cd, "aKAITHI NUMBER SIGN ABOVE"⟩,
  ⟨0x110d0, "aSORA SOMPENG LETTER SAH dTAH dBAH dCAH dDAH dGAH dMAH dNGAH dLAH dNAH dVAH dPAH
    dYAH dRAH dHAH dKAH dJAH dNYAH dAH dEEH dIH dUH dOH dEH dMAE"⟩,
  ⟨0x110f0, "aSORA SOMPENG DIGIT ZERO dONE dTWO dTHREE dFOUR dFIVE dSIX dSEVEN dEIGHT dNINE"⟩,
  ⟨0x11100, "aCHAKMA SIGN CANDRABINDU cANUSVARA cVISARGA bLETTER AA cI cU cE cKAA cKHAA cGAA
    cGHAA cNGAA cCAA cCHAA cJAA cJHAA cNYAA cTTAA cTTHAA cDDAA cDDHAA cNNAA cTAA cTHAA cDAA cDHAA
    cNAA cPAA cPHAA cBAA cBHAA cMAA cYYAA cYAA cRAA cLAA cWAA cSAA cHAA bVOWEL SIGN A dI dII dU
    dUU dE dAI dO dAU dOI bO MARK bAU MARK bVIRAMA bMAAYYAA"⟩,
  ⟨0x11136, "aCHAKMA DIGIT ZERO cONE cTWO cTHREE cFOUR cFIVE cSIX cSEVEN cEIGHT cNINE
    bSECTION MARK bDANDA bDOUBLE DANDA bQUESTION MARK bLETTER LHAA bVOWEL SIGN AA dEI bLETTER VAA"⟩,
  ⟨0x11150, "aMAHAJANI LETTER A cI cU cE cO cKA cKHA cGA cGHA cCA cCHA cJA cJHA cNYA cTTA cTTHA
    cDDA cDDHA cNNA cTA cTHA cDA cDHA cNA cPA cPHA cBA cBHA cMA cRA cLA cVA cSA cHA cRRA
    bSIGN NUKTA bABBREVIATION SIGN bSECTION MARK bLIGATURE SHRI"⟩,
  ⟨0x11180, "aSHARADA SIGN CANDRABINDU cANUSVARA cVISARGA bLETTER A cAA cI cII cU cUU cVOCALIC R
    dRR dL dLL cE cAI cO cAU cKA cKHA cGA cGHA cNGA cCA cCHA cJA cJHA cNYA cTTA cTTHA cDDA cDDHA
    cNNA cTA cTHA cDA cDHA cNA cPA cPHA cBA cBHA cMA cYA cRA cLA cLLA cVA cSHA cSSA cSA cHA
    bVOWEL SIGN AA dI dII dU dUU dVOCALIC R eRR eL eLL dE dAI dO dAU bSIGN VIRAMA cAVAGRAHA
    cJIHVAMULIYA cUPADHMANIYA bOM bDANDA bDOUBLE DANDA bABBREVIATION SIGN bSEPARATOR bSANDHI MARK
    bSIGN NUKTA bVOWEL MODIFIER MARK bEXTRA SHORT VOWEL MARK bSUTRA MARK
    bVOWEL SIGN PRISHTHAMATRA E bSIGN INVERTED CANDRABINDU bDIGIT ZERO cONE cTWO cTHREE cFOUR
    cFIVE cSIX cSEVEN cEIGHT cNINE bEKAM bSIGN SIDDHAM bHEADSTROKE bCONTINUATION SIGN
    bSECTION MARK-1 cMARK-2"⟩,
  ⟨0x111e1, "aSINHALA ARCHAIC DIGIT ONE dTWO dTHREE dFOUR dFIVE dSIX dSEVEN dEIGHT dNINE
    cNUMBER TEN dTWENTY dTHIRTY dFORTY dFIFTY dSIXTY dSEVENTY dEIGHTY dNINETY dONE HUNDRED
    eTHOUSAND"⟩,
  ⟨0x11200, "aKHOJKI LETTER A cAA cI cU cE cAI cO cAU cKA cKHA cGA cGGA cGHA cNGA cCA cCHA cJA
    cJJA"⟩,
  ⟨0x11213, "aKHOJKI LETTER NYA cTTA cTTHA cDDA cDDHA cNNA cTA cTHA cDA cDDDA cDHA cNA cPA cPHA
    cBA cBBA cBHA cMA cYA cRA cLA cVA cSA cHA cLLA bVOWEL SIGN AA dI dII dU dE dAI dO dAU
    bSIGN ANUSVARA cVIRAMA cNUKTA cSHADDA bDANDA bDOUBLE DANDA bWORD SEPARATOR bSECTION MARK
    bDOUBLE SECTION MARK bABBREVIATION SIGN bSIGN SUKUN"⟩,
  ⟨0x11280, "aMULTANI LETTER A cI cU cE cKA cKHA cGA"⟩,
  ⟨0x11288, "aMULTANI LETTER GHA"⟩,
  ⟨0x1128a, "aMULTANI LETTER CA cCHA cJA cJJA"⟩,
  ⟨0x1128f, "aMULTANI LETTER NYA cTTA cTTHA cDDA cDDDA cDDHA cNNA cTA cTHA cDA cDHA cNA cPA cPHA
    cBA"⟩,
  ⟨0x1129f, "aMULTANI LETTER BHA cMA cYA cRA cLA cVA cSA cHA cRRA cRHA bSECTION MARK"⟩,
  ⟨0x112b0, "aKHUDAWADI LETTER A cAA cI cII cU cUU cE cAI cO cAU cKA cKHA cGA cGGA cGHA cNGA cCA
    cCHA cJA cJJA cJHA cNYA cTTA cTTHA cDDA cDDDA cRRA cDDHA cNNA cTA cTHA cDA cDHA cNA cPA cPHA
    cBA cBBA cBHA cMA cYA cRA cLA cVA cSHA cSA cHA bSIGN ANUSVARA bVOWEL SIGN AA dI dII dU dUU dE
    dAI dO dAU bSIGN NUKTA cVIRAMA"⟩,
  ⟨0x112f0, "aKHUDAWADI DIGIT ZERO cONE cTWO cTHREE cFOUR cFIVE cSIX cSEVEN cEIGHT cNINE"⟩,
  ⟨0x11300, "aGRANTHA SIGN COMBINING ANUSVARA ABOVE cCANDRABINDU cANUSVARA cVISARGA"⟩,
  ⟨0x11305, "aGRANTHA LETTER A cAA cI cII cU cUU cVOCALIC R dL"⟩,
  ⟨0x1130f, "aGRANTHA LETTER EE cAI"⟩,
  ⟨0x11313, "aGRANTHA LETTER OO cAU cKA cKHA cGA cGHA cNGA cCA cCHA cJA cJHA cNYA cTTA cTTHA cDDA
    cDDHA cNNA cTA cTHA cDA cDHA cNA"⟩,
  ⟨0x1132a, "aGRANTHA LETTER PA cPHA cBA cBHA cMA cYA cRA"⟩,
  ⟨0x11332, "aGRANTHA LETTER LA cLLA"⟩,
  ⟨0x11335, "aGRANTHA LETTER VA cSHA cSSA cSA cHA"⟩,
  ⟨0x1133b, "aCOMBINING BINDU BELOW aGRANTHA SIGN NUKTA cAVAGRAHA bVOWEL SIGN AA dI dII dU dUU
    dVOCALIC R eRR"⟩,
  ⟨0x11347, "aGRANTHA VOWEL SIGN EE dAI"⟩,
  ⟨0x1134b, "aGRANTHA VOWEL SIGN OO dAU bSIGN VIRAMA"⟩,
  ⟨0x11350, "aGRANTHA OM"⟩,
  ⟨0x11357, "aGRANTHA AU LENGTH MARK"⟩,
  ⟨0x1135d, "aGRANTHA SIGN PLUTA bLETTER VEDIC ANUSVARA dDOUBLE ANUSVARA cVOCALIC RR dLL
    bVOWEL SIGN VOCALIC L eLL"⟩,
  ⟨0x11366, "aCOMBINING GRANTHA DIGIT ZERO dONE dTWO dTHREE dFOUR dFIVE dSIX"⟩,
  ⟨0x11370, "aCOMBINING GRANTHA LETTER A dKA dNA dVI dPA"⟩,
  ⟨0x11400, "aNEWA LETTER A cAA cI cII cU cUU cVOCALIC R dRR dL dLL cE cAI cO cAU cKA cKHA cGA
    cGHA cNGA cNGHA cCA cCHA cJA cJHA cNYA cNYHA cTTA cTTHA cDDA cDDHA cNNA cTA cTHA cDA cDHA cNA
    cNHA cPA cPHA cBA cBHA cMA cMHA cYA cRA cRHA cLA cLHA cWA cSHA cSSA cSA cHA bVOWEL SIGN AA dI
    dII dU dUU dVOCALIC R eRR eL eLL dE dAI dO dAU bSIGN VIRAMA cCANDRABINDU cANUSVARA cVISARGA
    cNUKTA cAVAGRAHA cFINAL ANUSVARA bOM bSIDDHI bDANDA bDOUBLE DANDA bCOMMA bGAP FILLER
    bABBREVIATION SIGN bDIGIT ZERO cONE cTWO cTHREE cFOUR cFIVE cSIX cSEVEN cEIGHT cNINE
    bDOUBLE COMMA bPLACEHOLDER MARK"⟩,
  ⟨0x1145d, "aNEWA INSERTION SIGN bSANDHI MARK bLETTER VEDIC ANUSVARA bSIGN JIHVAMULIYA
    cUPADHMANIYA"⟩,
  ⟨0x11480, "aTIRHUTA ANJI bLETTER A cAA cI cII cU cUU cVOCALIC R dRR dL dLL cE cAI cO cAU cKA
    cKHA cGA cGHA cNGA cCA cCHA cJA cJHA cNYA cTTA cTTHA cDDA cDDHA cNNA cTA cTHA cDA cDHA cNA
    cPA cPHA cBA cBHA cMA cYA cRA cLA cVA cSHA cSSA cSA cHA bVOWEL SIGN AA dI dII dU dUU
    dVOCALIC R eRR eL eLL dE dSHORT E dAI dO dSHORT O dAU bSIGN CANDRABINDU cANUSVARA cVISARGA
    cVIRAMA cNUKTA cAVAGRAHA bGVANG bABBREVIATION SIGN bOM"⟩,
  ⟨0x114d0, "aTIRHUTA DIGIT ZERO cONE cTWO cTHREE cFOUR cFIVE cSIX cSEVEN cEIGHT cNINE"⟩,
  ⟨0x11580, "aSIDDHAM LETTER A cAA cI cII cU cUU cVOCALIC R dRR dL dLL cE cAI cO cAU cKA cKHA cGA
    cGHA cNGA cCA cCHA cJA cJHA cNYA cTTA cTTHA cDDA cDDHA cNNA cTA cTHA cDA cDHA cNA cPA cPHA
    cBA cBHA cMA cYA cRA cLA cVA cSHA cSSA cSA cHA bVOWEL SIGN AA dI dII dU dUU dVOCALIC R eRR"⟩,
  ⟨0x115b8, "aSIDDHAM VOWEL SIGN E dAI dO dAU bSIGN CANDRABINDU cANUSVARA cVISARGA cVIRAMA cNUKTA
    cSIDDHAM bDANDA bDOUBLE DANDA bSEPARATOR DOT cBAR bREPETITION MARK-1 cMARK-2 cMARK-3
    bEND OF TEXT MARK bSECTION MARK WITH TRIDENT AND U-SHAPED ORNAMENTS gDOTTED CRESCENTS
    eRAYS AND DOTTED CRESCENTS hDOUBLE CRESCENTS hTRIPLE CRESCENTS dDOUBLE RING fWITH RAYS
    dWITH DOUBLE CRESCENTS eTRIPLE CRESCENTS eQUADRUPLE CRESCENTS eSEPTUPLE CRESCENTS
    eCIRCLES AND RAYS gTWO ENCLOSURES gFOUR ENCLOSURES bLETTER THREE-CIRCLE ALTERNATE I
    cTWO-CIRCLE ALTERNATE I eII cALTERNATE U bVOWEL SIGN ALTERNATE U eUU"⟩,
  ⟨0x11600, "aMODI LETTER A cAA cI cII cU cUU cVOCALIC R dRR dL dLL cE cAI cO cAU cKA cKHA cGA
    cGHA cNGA cCA cCHA cJA cJHA cNYA cTTA cTTHA cDDA cDDHA cNNA cTA cTHA cDA cDHA cNA cPA cPHA
    cBA cBHA cMA cYA cRA cLA cVA cSHA cSSA cSA cHA cLLA bVOWEL SIGN AA dI dII dU dUU dVOCALIC R
    eRR eL eLL dE dAI dO dAU bSIGN ANUSVARA cVISARGA cVIRAMA cARDHACANDRA bDANDA bDOUBLE DANDA
    bABBREVIATION SIGN bSIGN HUVA"⟩,
  ⟨0x11650, "aMODI DIGIT ZERO cONE cTWO cTHREE cFOUR cFIVE cSIX cSEVEN cEIGHT cNINE"⟩,
  ⟨0x11660, "aMONGOLIAN BIRGA WITH ORNAMENT bROTATED BIRGA bDOUBLE BIRGA WITH ORNAMENT
    bTRIPLE BIRGA WITH ORNAMENT bBIRGA WITH DOUBLE ORNAMENT bROTATED BIRGA WITH ORNAMENT
    eDOUBLE ORNAMENT bINVERTED BIRGA dWITH DOUBLE ORNAMENT bSWIRL BIRGA dWITH ORNAMENT
    eDOUBLE ORNAMENT bTURNED SWIRL BIRGA WITH DOUBLE ORNAMENT"⟩,
  ⟨0x11680, "aTAKRI LETTER A cAA cI cII cU cUU cE cAI cO cAU cKA cKHA cGA cGHA cNGA cCA cCHA cJA
    cJHA cNYA cTTA cTTHA cDDA cDDHA cNNA cTA cTHA cDA cDHA cNA cPA cPHA cBA cBHA cMA cYA cRA cLA
    cVA cSHA cSA cHA cRRA bSIGN ANUSVARA cVISARGA bVOWEL SIGN AA dI dII dU dUU dE dAI dO dAU
    bSIGN VIRAMA cNUKTA bLETTER ARCHAIC KHA bABBREVIATION SIGN"⟩,
  ⟨0x116c0, "aTAKRI DIGIT ZERO cONE cTWO cTHREE cFOUR cFIVE cSIX cSEVEN cEIGHT cNINE"⟩,
  ⟨0x11700, "aAHOM LETTER KA cKHA cNGA cNA cTA cALTERNATE TA cPA cPHA cBA cMA cJA cCHA cTHA cRA
    cLA cSA cNYA cHA cA cDA cDHA cGA cALTERNATE GA cGHA cBHA cJHA cALTERNATE BA"⟩,
  ⟨0x1171d, "aAHOM CONSONANT SIGN MEDIAL LA eRA eLIGATING RA bVOWEL SIGN A dAA dI dII dU dUU dE
    dAW dO dAI dAM bSIGN KILLER"⟩,
  ⟨0x11730, "aAHOM DIGIT ZERO cONE cTWO cTHREE cFOUR cFIVE cSIX cSEVEN cEIGHT cNINE bNUMBER TEN
    cTWENTY bSIGN SMALL SECTION cSECTION cRULAI bSYMBOL VI bLETTER CA cTTA cTTHA cDDA cDDHA cNNA
    cLLA"⟩,
  ⟨0x11800, "aDOGRA LETTER A cAA cI cII cU cUU cE cAI cO cAU cKA cKHA cGA cGHA cNGA cCA cCHA cJA
    cJHA cNYA cTTA cTTHA cDDA cDDHA cNNA cTA cTHA cDA cDHA cNA cPA cPHA cBA cBHA cMA cYA cRA cLA
    cVA cSHA cSSA cSA cHA cRRA bVOWEL SIGN AA dI dII dU dUU dVOCALIC R eRR dE dAI dO dAU
    bSIGN ANUSVARA cVISARGA cVIRAMA cNUKTA bABBREVIATION SIGN"⟩,
  ⟨0x118a0, "aWARANG CITI CAPITAL LETTER NGAA eA eWI eYU eYA eYO eII eUU eE eO eANG eGA eKO eENY
    eYUJ eUC eENN eODD eTTE eNUNG eDA eAT eAM eBU ePU eHIYO eHOLO eHORR eHAR eSSUU eSII eVIYO
    cSMALL LETTER NGAA eA eWI eYU eYA eYO eII eUU eE eO eANG eGA eKO eENY eYUJ eUC eENN eODD eTTE
    eNUNG eDA eAT eAM eBU ePU eHIYO eHOLO eHORR eHAR eSSUU eSII eVIYO cDIGIT ZERO dONE dTWO
    dTHREE dFOUR dFIVE dSIX dSEVEN dEIGHT dNINE cNUMBER TEN dTWENTY dTHIRTY dFORTY dFIFTY dSIXTY
    dSEVENTY dEIGHTY dNINETY"⟩,
  ⟨0x118ff, "aWARANG CITI OM aDIVES AKURU LETTER A dAA dI dII dU dUU dE"⟩,
  ⟨0x11909, "aDIVES AKURU LETTER O"⟩,
  ⟨0x1190c, "aDIVES AKURU LETTER KA dKHA dGA dGHA dNGA dCA dCHA dJA"⟩,
  ⟨0x11915, "aDIVES AKURU LETTER NYA dTTA"⟩,
  ⟨0x11918, "aDIVES AKURU LETTER DDA dDDHA dNNA dTA dTHA dDA dDHA dNA dPA dPHA dBA dBHA dMA dYA
    dYYA dRA dLA dVA dSHA dSSA dSA dHA dLLA dZA cVOWEL SIGN AA eI eII eU eUU eE"⟩,
  ⟨0x11937, "aDIVES AKURU VOWEL SIGN AI eO"⟩,
  ⟨0x1193b, "aDIVES AKURU SIGN ANUSVARA dCANDRABINDU dHALANTA cVIRAMA cPREFIXED NASAL SIGN
    cMEDIAL YA cINITIAL RA cMEDIAL RA cSIGN NUKTA cDOUBLE DANDA cGAP FILLER cEND OF TEXT MARK"⟩,
  ⟨0x11950, "aDIVES AKURU DIGIT ZERO dONE dTWO dTHREE dFOUR dFIVE dSIX dSEVEN dEIGHT dNINE"⟩,
  ⟨0x119a0, "aNANDINAGARI LETTER A cAA cI cII cU cUU cVOCALIC R dRR"⟩,
  ⟨0x119aa, "aNANDINAGARI LETTER E cAI cO cAU cKA cKHA cGA cGHA cNGA cCA cCHA cJA cJHA cNYA cTTA
    cTTHA cDDA cDDHA cNNA cTA cTHA cDA cDHA cNA cPA cPHA cBA cBHA cMA cYA cRA cLA cVA cSHA cSSA
    cSA cHA cLLA cRRA bVOWEL SIGN AA dI dII dU dUU dVOCALIC R eRR"⟩,
  ⟨0x119da, "aNANDINAGARI VOWEL SIGN E dAI dO dAU bSIGN ANUSVARA cVISARGA cVIRAMA cAVAGRAHA
    cSIDDHAM bHEADSTROKE bVOWEL SIGN PRISHTHAMATRA E"⟩,
  ⟨0x11a00, "aZANABAZAR SQUARE LETTER A cVOWEL SIGN I eUE eU eE eOE eO eAI eAU eREVERSED I
    dLENGTH MARK cLETTER KA dKHA dGA dGHA dNGA dCA dCHA dJA dNYA dTTA dTTHA dDDA dDDHA dNNA dTA
    dTHA dDA dDHA dNA dPA dPHA dBA dBHA dMA dTSA dTSHA dDZA dDZHA dZHA dZA d-A dYA dRA dLA dVA
    dSHA dSSA dSA dHA dKSSA cFINAL CONSONANT MARK cSIGN VIRAMA dCANDRABINDU eWITH ORNAMENT
    dCANDRA WITH ORNAMENT dANUSVARA dVISARGA cCLUSTER-INITIAL LETTER RA cCLUSTER-FINAL LETTER YA
    eRA eLA eVA cINITIAL HEAD MARK cCLOSING HEAD MARK cMARK TSHEG dSHAD dDOUBLE SHAD dLONG TSHEG
    cINITIAL DOUBLE-LINED HEAD MARK cCLOSING DOUBLE-LINED HEAD MARK cSUBJOINER"⟩,
  ⟨0x11a50, "aSOYOMBO LETTER A bVOWEL SIGN I dUE dU dE dO dOE dAI dAU dVOCALIC R eL cLENGTH MARK
    bLETTER KA cKHA cGA cGHA cNGA cCA cCHA cJA cJHA cNYA cTTA cTTHA cDDA cDDHA cNNA cTA cTHA cDA
    cDHA cNA cPA cPHA cBA cBHA cMA cTSA cTSHA cDZA cZHA cZA c-A cYA cRA cLA cVA cSHA cSSA cSA cHA
    cKSSA bSIGN JIHVAMULIYA cUPADHMANIYA bCLUSTER-INITIAL LETTER RA dLA dSHA dSA
    bFINAL CONSONANT SIGN G eK eNG eD eN eB eM eR eL eSH eS e-A bSIGN ANUSVARA cVISARGA
    bGEMINATION MARK bSUBJOINER bMARK TSHEG cSHAD cDOUBLE SHAD cPLUTA
    bHEAD MARK WITH MOON AND SUN AND TRIPLE FLAME iFLAME h bTERMINAL MARK-1 cMARK-2"⟩,
  ⟨0x11ab0, "aCANADIAN SYLLABICS NATTILIK HI dHII dHO dHOO dHA dHAA dSHRI dSHRII dSHRO dSHROO
    dSHRA dSHRAA cSPE cSPI cSPO cSPA aPAU CIN HAU LETTER PA eKA eLA eMA eDA eZA eVA eNGA eHA eGA
    eKHA eSA eBA eCA eTA eTHA eNA ePHA eRA eFA eCHA eA eE eI eO eU eUA eIA eFINAL P fK fT fM fN
    fL fW fNG fY dRISING TONE LONG f dSANDHI GLOTTAL STOP dRISING TONE LONG FINAL fFINAL
    dSANDHI GLOTTAL STOP FINAL eTONE LONG f fLONG FINAL fFINAL dMID-LEVEL TONE
    dGLOTTAL STOP VARIANT dMID-LEVEL TONE LONG FINAL fFINAL dLOW-FALLING TONE LONG f
    dGLOTTAL STOP dLOW-FALLING TONE LONG FINAL fFINAL dGLOTTAL STOP FINAL"⟩,
  ⟨0x11c00, "aBHAIKSUKI LETTER A cAA cI cII cU cUU cVOCALIC R dRR dL"⟩,
  ⟨0x11c0a, "aBHAIKSUKI LETTER E cAI cO cAU cKA cKHA cGA cGHA cNGA cCA cCHA cJA cJHA cNYA cTTA
    cTTHA cDDA cDDHA cNNA cTA cTHA cDA cDHA cNA cPA cPHA cBA cBHA cMA cYA cRA cLA cVA cSHA cSSA
    cSA cHA bVOWEL SIGN AA dI dII dU dUU dVOCALIC R eRR eL"⟩,
  ⟨0x11c38, "aBHAIKSUKI VOWEL SIGN E dAI dO dAU bSIGN CANDRABINDU cANUSVARA cVISARGA cVIRAMA
    cAVAGRAHA bDANDA bDOUBLE DANDA bWORD SEPARATOR bGAP FILLER-1 cFILLER-2"⟩,
  ⟨0x11c50, "aBHAIKSUKI DIGIT ZERO cONE cTWO cTHREE cFOUR cFIVE cSIX cSEVEN cEIGHT cNINE
    bNUMBER ONE cTWO cTHREE cFOUR cFIVE cSIX cSEVEN cEIGHT cNINE cTEN cTWENTY cTHIRTY cFORTY
    cFIFTY cSIXTY cSEVENTY cEIGHTY cNINETY bHUNDREDS UNIT MARK"⟩,
  ⟨0x11c70, "aMARCHEN HEAD MARK bMARK SHAD bLETTER KA cKHA cGA cNGA cCA cCHA cJA cNYA cTA cTHA
    cDA cNA cPA cPHA cBA cMA cTSA cTSHA cDZA cWA cZHA cZA c-A cYA cRA cLA cSHA cSA cHA cA"⟩,
  ⟨0x11c92, "aMARCHEN SUBJOINED LETTER KA dKHA dGA dNGA dCA dCHA dJA dNYA dTA dTHA dDA dNA dPA
    dPHA dBA dMA dTSA dTSHA dDZA dWA dZHA dZA"⟩,
  ⟨0x11ca9, "aMARCHEN SUBJOINED LETTER YA dRA dLA dSHA dSA dHA dA bVOWEL SIGN AA dI dU dE dO
    bSIGN ANUSVARA cCANDRABINDU"⟩,
  ⟨0x11d00, "aMASARAM GONDI LETTER A dAA dI dII dU dUU dE"⟩,
  ⟨0x11d08, "aMASARAM GONDI LETTER AI dO"⟩,
  ⟨0x11d0b, "aMASARAM GONDI LETTER AU dKA dKHA dGA dGHA dNGA dCA dCHA dJA dJHA dNYA dTTA dTTHA
    dDDA dDDHA dNNA dTA dTHA dDA dDHA dNA dPA dPHA dBA dBHA dMA dYA dRA dLA dVA dSHA dSSA dSA dHA
    dLLA dKSSA dJNYA dTRA cVOWEL SIGN AA eI eII eU eUU eVOCALIC R"⟩,
  ⟨0x11d3a, "aMASARAM GONDI VOWEL SIGN E"⟩,
  ⟨0x11d3c, "aMASARAM GONDI VOWEL SIGN AI eO"⟩,
  ⟨0x11d3f, "aMASARAM GONDI VOWEL SIGN AU cSIGN ANUSVARA dVISARGA dNUKTA dCANDRA dHALANTA cVIRAMA
    cREPHA cRA-KARA"⟩,
  ⟨0x11d50, "aMASARAM GONDI DIGIT ZERO dONE dTWO dTHREE dFOUR dFIVE dSIX dSEVEN dEIGHT dNINE"⟩,
  ⟨0x11d60, "aGUNJALA GONDI LETTER A dAA dI dII dU dUU"⟩,
  ⟨0x11d67, "aGUNJALA GONDI LETTER EE dAI"⟩,
  ⟨0x11d6a, "aGUNJALA GONDI LETTER OO dAU dYA dVA dBA dBHA dMA dKA dKHA dTA dTHA dLA dGA dGHA dDA
    dDHA dNA dCA dCHA dTTA dTTHA dLLA dJA dJHA dDDA dDDHA dNGA dPA dPHA dHA dRA dSA
    cVOWEL SIGN AA eI eII eU eUU"⟩,
  ⟨0x11d90, "aGUNJALA GONDI VOWEL SIGN EE eAI"⟩,
  ⟨0x11d93, "aGUNJALA GONDI VOWEL SIGN OO eAU cSIGN ANUSVARA dVISARGA cVIRAMA cOM"⟩,
  ⟨0x11da0, "aGUNJALA GONDI DIGIT ZERO dONE dTWO dTHREE dFOUR dFIVE dSIX dSEVEN dEIGHT dNINE"⟩,
  ⟨0x11ee0, "aMAKASAR LETTER KA cGA cNGA cPA cBA cMA cTA cDA cNA cCA cJA cNYA cYA cRA cLA cVA cSA
    cA bANGKA bVOWEL SIGN I dU dE dO bPASSIMBANG bEND OF SECTION"⟩,
  ⟨0x11fb0, "aLISU LETTER YHA"⟩,
  ⟨0x11fc0, "aTAMIL FRACTION ONE THREE-HUNDRED-AND-TWENTIETH dONE-HUNDRED-AND-SIXTIETH dEIGHTIETH
    dSIXTY-FOURTH dFORTIETH dTHIRTY-SECOND cTHREE EIGHTIETHS dSIXTY-FOURTHS cONE TWENTIETH
    dSIXTEENTH-1 dSIXTEENTH-2 dTENTH dEIGHTH cTHREE TWENTIETHS dSIXTEENTHS cONE FIFTH dQUARTER
    dHALF-1 dHALF-2 cTHREE QUARTERS cDOWNSCALING FACTOR KIIZH bSIGN NEL cCEVITU cAAZHAAKKU
    cUZHAKKU cMUUVUZHAKKU cKURUNI cPATHAKKU cMUKKURUNI cKAACU cPANAM cPON cVARAAKAN cPAARAM
    cKUZHI cVELI bWET CULTIVATION SIGN bDRY CULTIVATION SIGN bLAND SIGN bSALT PAN SIGN
    bTRADITIONAL CREDIT SIGN cNUMBER SIGN bCURRENT SIGN bAND ODD SIGN bSPENT SIGN bTOTAL SIGN
    bIN POSSESSION SIGN bSTARTING FROM SIGN bSIGN MUTHALIYA cVAKAIYARAA"⟩,
  ⟨0x11fff, "aTAMIL PUNCTUATION END OF TEXT aCUNEIFORM SIGN A dTIMES A eBAD eGAN2 TENU eHA eIGI
    eLAGAR GUNU eMUSH eSAG cA2 cAB dTIMES ASH2 eDUN3 GUNU eGAL eGAN2 TENU eHA eIGI GUNU eIMIN
    eLAGAB eSHESH eU PLUS U PLUS U dGUNU cAB2 dTIMES BALAG eGAN2 TENU eME PLUS EN eSHA3 eTAK4 cAD
    cAK dTIMES ERIN2 eSHITA PLUS GISH cAL dTIMES AL eDIM2 eGISH eHA eKAD3 eKI eSHE eUSH cALAN
    cALEPH cAMAR dTIMES SHE cAN dOVER AN dTHREE TIMES dPLUS NAGA OPPOSING AN PLUS NAGA fSQUARED
    cANSHE cAPIN cARAD dTIMES KUR cARKAB cASAL2 cASH dZIDA TENU dKABA TENU
    dOVER ASH TUG2 OVER TUG2 TUG2 OVER TUG2 PAP fOVER ASH hCROSSING ASH OVER ASH OVER ASH cASH2
    cASHGAB cBA cBAD cBAG3 cBAHAR2 cBAL dOVER BAL cBALAG cBAR cBARA2 cBI dTIMES A eGAR eIGI GUNU
    cBU dOVER BU AB fUN dCROSSING BU cBULUG dOVER BULUG cBUR cBUR2 cDA cDAG
    dKISIM5 TIMES A PLUS MASH fAMAR fBALAG fBI fGA gPLUS MASH fGI fGIR2 fGUD fHA fIR gPLUS LU
    fKAK fLA fLU gPLUS MASH2 fLUM fNE fPAP PLUS PAP fSI fTAK4 fU2 PLUS GIR2 fUSH cDAM cDAR cDARA3
    cDARA4 cDI cDIB cDIM dTIMES SHE cDIM2 cDIN dKASKAL U GUNU DISH cDISH cDU dOVER DU dGUNU
    dSHESHIG cDUB dTIMES ESH2 cDUB2 cDUG cDUGUD cDUH cDUN cDUN3 dGUNU eGUNU cDUN4 cDUR2 cE
    dTIMES PAP dOVER E NUN OVER NUN cE2 dTIMES A PLUS HA PLUS DA eGAR eMI eSAL eSHE eU cEDIN
    cEGIR cEL cEN dTIMES GAN2 fTENU eME dCROSSING EN dOPPOSING EN dSQUARED cEREN cERIN2 cESH2
    cEZEN dTIMES A fPLUS LAL hTIMES LAL eAN eBAD eDUN3 GUNU gGUNU eHA fGUNU eIGI GUNU eKASKAL
    fSQUARED eKU3 eLA eLAL TIMES LAL eLI eLU eU2 eUD cGA dGUNU cGA2 dTIMES A PLUS DA PLUS HA gHA
    gIGI eAB2 TENU PLUS TAB eAN eASH eASH2 PLUS GAL eBAD eBAR PLUS RA eBUR fPLUS RA eDA eDI
    eDIM TIMES SHE eDUB eEL fPLUS LA eEN fTIMES GAN2 TENU eGAN2 TENU eGAR eGI eGI4 fPLUS A
    eGIR2 PLUS SU eHA PLUS LU PLUS ESH2 eHAL fPLUS LA eHI PLUS LI eHUB2 eIGI GUNU
    eISH PLUS HU PLUS ASH eKAK eKASKAL eKID fPLUS LAL eKU3 PLUS AN eLA eME PLUS EN eMI eNUN
    fOVER NUN ePA eSAL eSAR eSHE fPLUS TUR eSHID eSUM eTAK4 eU eUD fPLUS DU dOVER GA2 cGABA
    dCROSSING GABA cGAD dOVER GAD GAR OVER GAR cGAL dGAD OVER GAD GAR OVER GAR cGALAM cGAM cGAN
    cGAN2 dTENU dOVER GAN2 dCROSSING GAN2 cGAR cGAR3 cGASHAN cGESHTIN dTIMES KUR cGI dTIMES E eU
    dCROSSING GI cGI4 dOVER GI4 dCROSSING GI4 cGIDIM cGIR2 dGUNU cGIR3 dTIMES A PLUS IGI
    eGAN2 TENU eIGI eLU PLUS IGI ePA cGISAL cGISH dCROSSING GISH dTIMES BAD eTAK4 dTENU cGU
    dCROSSING GU cGU2 dTIMES KAK fTIMES IGI GUNU eNUN eSAL PLUS TUG2 dGUNU cGUD dTIMES A PLUS KUR
    eKUR dOVER GUD LUGAL cGUL cGUM dTIMES SHE cGUR cGUR7 cGURUN cGURUSH cHA dTENU dGUNU cHAL cHI
    dTIMES ASH eASH2 eBAD eDISH eGAD eKIN eNUN eSHE eU cHU cHUB2 dTIMES AN eHAL eKASKAL eLISH eUD
    cHUL2 cI dA cIB cIDIM dOVER IDIM BUR fSQUARED cIG cIGI dDIB dRI
    dOVER IGI SHIR OVER SHIR UD OVER UD dGUNU cIL dTIMES GAN2 TENU cIL2 cIM dTIMES TAK4
    dCROSSING IM dOPPOSING IM dSQUARED cIMIN cIN cIR cISH cKA dTIMES A eAD fPLUS KU3 eASH2 eBAD
    eBALAG eBAR eBI eERIN2 eESH2 eGA eGAL eGAN2 TENU eGAR fPLUS SHA3 PLUS A eGI eGIR2
    eGISH PLUS SAR fCROSSING GISH eGU eGUR7 eIGI eIM eKAK eKI eKID eLI eLU eME fPLUS DU gGI gTE
    eMI fPLUS NUNUZ eNE eNUN ePI eRU eSA eSAR eSHA eSHE eSHID eSHU eSIG eSUHUR eTAR eU eU2 eUD
    eUMUM TIMES PA eUSH eZI cKA2 dCROSSING KA2 cKAB cKAD2 cKAD3 cKAD4 cKAD5 dOVER KAD5 cKAK
    dTIMES IGI GUNU cKAL dTIMES BAD dCROSSING KAL cKAM2 cKAM4 cKASKAL
    dLAGAB TIMES U OVER LAGAB TIMES U dOVER KASKAL LAGAB TIMES U OVER LAGAB TIMES U cKESH2 cKI
    dTIMES BAD eU eUD cKID cKIN cKISAL cKISH cKISIM5 dOVER KISIM5 cKU
    dOVER HI TIMES ASH2 KU OVER HI TIMES ASH2 cKU3 cKU4 dVARIANT FORM cKU7 cKUL dGUNU cKUN cKUR
    dOPPOSING KUR cKUSHU2 cKWU318 cLA cLAGAB dTIMES A fPLUS DA PLUS HA gGAR gLAL eAL eAN
    eASH ZIDA TENU eBAD eBI eDAR eEN eGA eGAR eGUD fPLUS GUD eHA eHAL eHI TIMES NUN eIGI GUNU eIM
    fPLUS HA gLU eKI eKIN eKU3 eKUL fPLUS HI PLUS A eLAGAB eLISH eLU eLUL eME fPLUS EN eMUSH eNE
    eSHE PLUS SUM eSHITA PLUS GISH PLUS ERIN2 hTENU eSHU2 fPLUS SHU2 eSUM eTAG eTAK4
    eTE PLUS A PLUS SU PLUS NA eU fPLUS A gU PLUS U eU2 PLUS ASH eUD eUSH dSQUARED cLAGAR
    dTIMES SHE fPLUS SUM dGUNU eOVER LAGAR GUNU SHE cLAHSHU cLAL dTIMES LAL cLAM dTIMES KUR
    fPLUS RU cLI cLIL cLIMMU2 cLISH cLU dTIMES BAD cLU2 dTIMES AL eBAD eESH2 fTENU eGAN2 TENU
    eHI TIMES BAD eIM eKAD2 eKAD3 fPLUS ASH eKI eLA PLUS ASH eLAGAB eME PLUS EN eNE eNU
    eSI PLUS ASH eSIK2 PLUS BU eTUG2 dTENU dCROSSING LU2 dOPPOSING LU2 dSQUARED dSHESHIG cLU3
    cLUGAL dOVER LUGAL dOPPOSING LUGAL dSHESHIG cLUH cLUL cLUM dOVER LUM fGAR OVER GAR cMA
    dTIMES TAK4 dGUNU cMA2 cMAH cMAR cMASH cMASH2 cME cMES cMI cMIN cMU dOVER MU cMUG dGUNU
    cMUNSUB cMURGU2 cMUSH dTIMES A eKUR eZA dOVER MUSH fTIMES A PLUS NA dCROSSING MUSH cMUSH3
    dTIMES A fPLUS DI eDI dGUNU cNA cNA2 cNAGA dINVERTED dTIMES SHU TENU dOPPOSING NAGA cNAGAR
    cNAM NUTILLU d cNAM2 cNE dTIMES A eUD dSHESHIG cNI dTIMES E cNI2 cNIM dTIMES GAN2 TENU
    eGAR PLUS GAN2 TENU cNINDA2 dTIMES AN eASH fPLUS ASH eGUD eME PLUS GAN2 TENU eNE eNUN eSHE
    fPLUS A AN gASH hPLUS ASH eU2 PLUS ASH eUSH cNISAG cNU cNU11 cNUN dLAGAR TIMES GAR fMASH fSAL
    gOVER NUN LAGAR TIMES SAL fUSH dTENU dOVER NUN dCROSSING NUN fLAGAR OVER LAGAR cNUNUZ
    dAB2 TIMES ASHGAB fBI fDUG fGUD fIGI GUNU fKAD3 fLA fNE fSILA3 fU2 dKISIM5 TIMES BI gU cPA
    cPAD cPAN cPAP cPESH2 cPI dTIMES A eAB eBI eBU eE eI eIB eU eU2 dCROSSING PI cPIRIG
    dTIMES KAL eUD eZA dOPPOSING PIRIG cRA cRAB cRI cRU cSA cSAG NUTILLU d dTIMES A eDU eDUB eHA
    eKAK eKUR eLUM eMI eNUN eSAL eSHID eTAB eU2 eUB eUM eUR eUSH dOVER SAG dGUNU cSAL
    dLAGAB TIMES ASH2 cSANGA2 cSAR cSHA cSHA3 dTIMES A eBAD eGISH eNE eSHU2 eTUR eU fPLUS A cSHA6
    cSHAB6 cSHAR2 cSHE dHU dOVER SHE GAD OVER GAD GAR OVER GAR fTAB OVER TAB GAR OVER GAR cSHEG9
    cSHEN cSHESH cSHESH2 cSHESHLAM cSHID dTIMES A eIM cSHIM dTIMES A eBAL eBULUG eDIN eGAR eIGI
    fGUNU eKUSHU2 eLUL eMUG eSAL cSHINIG cSHIR dTENU dOVER SHIR BUR OVER BUR cSHITA cSHU
    dOVER INVERTED SHU cSHU2 cSHUBUR cSI dGUNU cSIG cSIG4 dOVER SIG4 SHU2 cSIK2 cSILA3 cSU
    dOVER SU cSUD cSUD2 cSUHUR cSUM cSUMASH cSUR cSUR9 cTA dASTERISK dTIMES HI eMI dGUNU cTAB
    dOVER TAB NI OVER NI DISH OVER DISH dSQUARED cTAG dTIMES BI eGUD eSHE eSHU eTUG2 eUD cTAK4
    cTAR cTE dGUNU cTI dTENU cTIL cTIR dTIMES TAK4 dOVER TIR fGAD OVER GAD GAR OVER GAR cTU cTUG2
    cTUK cTUM cTUR dOVER TUR ZA OVER ZA cU dGUD dU U dOVER U PA OVER PA GAR OVER GAR
    fSUR OVER SUR fU REVERSED OVER U REVERSED cU2 cUB cUD dKUSHU2 dTIMES BAD eMI eU PLUS U PLUS U
    jGUNU dGUNU dSHESHIG eTIMES BAD cUDUG cUM dTIMES LAGAB eME PLUS DA eSHA3 eU cUMBIN cUMUM
    dTIMES KASKAL ePA cUN dGUNU cUR dCROSSING UR dSHESHIG cUR2 dTIMES A PLUS HA gNA eAL eHA eNUN
    eU2 fPLUS ASH gBI cUR4 cURI cURI3 cURU dTIMES A eASHGAB eBAR eDUN eGA eGAL eGAN2 TENU eGAR
    eGU eHA eIGI eIM eISH eKI eLUM eMIN ePA eSHE eSIG4 eTU eU PLUS GUD eUD eURUDA cURUDA dTIMES U
    cUSH dTIMES A eKU eKUR eTAK4 cUSHX cUSH2 cUSHUMX cUTUKI cUZ3 dTIMES KASKAL cUZU cZA dTENU
    dSQUARED TIMES KUR cZAG cZAMX cZE2 cZI dOVER ZI cZI3 cZIB dKABA TENU cZIG cZIZ2 cZU cZU5
    dTIMES A cZUBUR cZUM cKAP ELAMITE cAB TIMES NUN cAB2 TIMES A cAMAR TIMES KUG
    cDAG KISIM5 TIMES U2 PLUS MASH cDAG3 cDISH PLUS SHU cDUB TIMES SHE cEZEN TIMES GUD eSHE
    cGA2 TIMES AN PLUS KAK PLUS A eASH2 cGE22 cGIG cHUSH cKA TIMES ANSHE eASH3 eGISH eGUD
    eHI TIMES ASH2 eLUM ePA eSHUL eTU eUR2 cLAGAB TIMES GI cLU2 SHESHIG TIMES BAD
    dTIMES ESH2 PLUS LAL eSHU cMESH cMUSH3 TIMES ZA cNA4 cNIN cNIN9 cNINDA2 TIMES BAL eGI
    cNU11 ROTATED NINETY DEGREES cPESH2 ASTERISK cPIR2 cSAG TIMES IGI GUNU cTI2 cUM TIMES ME cU U"⟩]

end OpScaffold.CharName
