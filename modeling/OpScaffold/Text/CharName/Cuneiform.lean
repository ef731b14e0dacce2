import OpScaffold.Text.CharName.Basic

/-!
# OpScaffold.Text.CharName.Cuneiform

The names of cuneiform signs in Unicode 14.
-/

namespace OpScaffold.CharName

/-- Names of cuneiform signs. -/
def cuneiformNames : List NameRun := [
  ⟨0x12400, "aCUNEIFORM NUMERIC SIGN TWO ASH dTHREE ASH dFOUR ASH dFIVE ASH dSIX ASH dSEVEN ASH
    dEIGHT ASH dNINE ASH dTHREE DISH dFOUR DISH dFIVE DISH dSIX DISH dSEVEN DISH dEIGHT DISH
    dNINE DISH dFOUR U dFIVE U dSIX U dSEVEN U dEIGHT U dNINE U dONE GESH2 dTWO GESH2
    dTHREE GESH2 dFOUR GESH2 dFIVE GESH2 dSIX GESH2 dSEVEN GESH2 dEIGHT GESH2 dNINE GESH2
    dONE GESHU dTWO GESHU dTHREE GESHU dFOUR GESHU dFIVE GESHU dTWO SHAR2 dTHREE SHAR2
    fVARIANT FORM dFOUR SHAR2 dFIVE SHAR2 dSIX SHAR2 dSEVEN SHAR2 dEIGHT SHAR2 dNINE SHAR2
    dONE SHARU dTWO SHARU dTHREE SHARU fVARIANT FORM dFOUR SHARU dFIVE SHARU
    dSHAR2 TIMES GAL PLUS DISH hMIN dONE BURU dTWO BURU dTHREE BURU fVARIANT FORM dFOUR BURU
    dFIVE BURU dTHREE VARIANT FORM ESH16 gESH21 dFOUR VARIANT FORM LIMMU gLIMMU4 gLIMMU A hB
    dSIX VARIANT FORM ASH9 dSEVEN VARIANT FORM IMIN3 gIMIN A hB dEIGHT VARIANT FORM USSU gUSSU3
    dNINE VARIANT FORM ILIMMU gILIMMU3 gILIMMU4 gILIMMU A dTWO ASH TENU dTHREE ASH TENU
    dFOUR ASH TENU dFIVE ASH TENU dSIX ASH TENU dONE BAN2 dTWO BAN2 dTHREE BAN2 dFOUR BAN2
    fVARIANT FORM dFIVE BAN2 fVARIANT FORM dNIGIDAMIN dNIGIDAESH dONE ESHE3 dTWO ESHE3
    dONE THIRD DISH dTWO THIRDS DISH dFIVE SIXTHS DISH dONE THIRD VARIANT FORM A
    dTWO THIRDS VARIANT FORM A dONE EIGHTH ASH eQUARTER ASH dOLD ASSYRIAN ONE SIXTH gQUARTER
    dONE QUARTER GUR eHALF GUR dELAMITE ONE THIRD eTWO THIRDS eFORTY eFIFTY dFOUR U VARIANT FORM
    dFIVE U VARIANT FORM dSIX U VARIANT FORM dSEVEN U VARIANT FORM dEIGHT U VARIANT FORM
    dNINE U VARIANT FORM"⟩,
  ⟨0x12470, "aCUNEIFORM PUNCTUATION SIGN OLD ASSYRIAN WORD DIVIDER dVERTICAL COLON
    dDIAGONAL COLON eTRICOLON eQUADCOLON"⟩,
  ⟨0x12480, "aCUNEIFORM SIGN AB TIMES NUN TENU eSHU2 cAD TIMES ESH2 cBAD TIMES DISH TENU
    cBAHAR2 TIMES AB2 eNI eZA cBU OVER BU TIMES NA2 cDA TIMES TAK4 cDAG TIMES KUR cDIM TIMES IGI
    eU U U cDIM2 TIMES UD cDUG TIMES ANSHE eASH fAT LEFT eDIN eDUN eERIN2 eGA eGI eGIR2 GUNU
    eGISH eHA eHI eIGI GUNU eKASKAL eKUR eKUSHU2 fPLUS KASKAL eLAK-020 eLAM fTIMES KUR
    eLUH PLUS GISH eMASH eMES eMI eNI ePI eSHE eSI GUNU cE2 TIMES KUR ePAP cERIN2 X
    cESH2 CROSSING ESH2 cEZEN SHESHIG TIMES ASH fHI fIGI GUNU fLA fLAL fME fMES fSU dTIMES SU
    cGA2 TIMES BAHAR2 eDIM GUNU eDUG TIMES IGI GUNU gKASKAL eEREN eGA eGAR PLUS DI gNE eHA PLUS A
    eKUSHU2 PLUS KASKAL eLAM fTIMES KUR eLUH eMUSH eNE fPLUS E2 gGI eSHIM eZIZ2
    cGABA ROTATED NINETY DEGREES cGESHTIN TIMES U cGISH TIMES GISH CROSSING GISH
    cGU2 TIMES IGI GUNU cGUD PLUS GISH TIMES TAK4 cHA TENU GUNU cHI TIMES ASH OVER HI TIMES ASH
    cKA TIMES BU eKA eU U U eUR cLAGAB TIMES ZU OVER ZU cLAK-003 cLAK-021 cLAK-025 cLAK-030
    cLAK-050 cLAK-051 cLAK-062 cLAK-079 OVER LAK-079 GUNU cLAK-080 cLAK-081 OVER LAK-081 cLAK-092
    cLAK-130 cLAK-142 cLAK-210 cLAK-219 cLAK-220 cLAK-225 cLAK-228 cLAK-238 cLAK-265 cLAK-266
    cLAK-343 cLAK-347 cLAK-348 cLAK-383 cLAK-384 cLAK-390 cLAK-441 cLAK-449 dTIMES GU eIGI
    ePAP PLUS LU3 gPAP PLUS LU3 eU2 PLUS BA cLAK-450 cLAK-457 cLAK-470 cLAK-483 cLAK-490 cLAK-492
    cLAK-493 cLAK-495 cLAK-550 cLAK-608 cLAK-617 dTIMES ASH eBAD eDUN3 GUNU GUNU eKU3 eLA eTAR
    eTE eU2 eUD eURUDA cLAK-636 cLAK-648 dTIMES DUB eGA eIGI fGUNU eNI ePAP PLUS PAP PLUS LU3
    eSHESH PLUS KI eUD eURUDA cLAK-724 cLAK-749 cLU2 GUNU TIMES ASH dTIMES DISH eHAL ePAP
    fPLUS PAP PLUS LU3 eTAK4 cMI PLUS ZA7 cMUSH OVER MUSH TIMES GA gKAK cNINDA2 TIMES DIM GUNU
    eGISH eGUL eHI eKESH2 eLAK-050 eMASH ePAP PLUS PAP eU fPLUS U eURUDA cSAG GUNU TIMES HA
    dTIMES EN eSHE AT LEFT eTAK4 cSHA6 TENU cSHE OVER SHE dPLUS HUB2 eNAM2 eSAR
    cSHU2 PLUS DUG TIMES NI eE2 TIMES AN cSI TIMES TAK4 cTAK4 PLUS SAG cTUM TIMES GAN2 TENU
    eTHREE DISH cUR2 INVERTED dTIMES UD cURU TIMES DARA3 eLAK-668 eLU3 cZA7 cZU OVER ZU PLUS SAR
    cZU5 TIMES THREE DISH TENU"⟩,
  ⟨0x12f90, "aCYPRO-MINOAN SIGN CM001 cCM002 cCM004 cCM005 cCM006 cCM007 cCM008 cCM009 cCM010
    cCM011 cCM012 cCM012B cCM013 cCM015 cCM017 cCM019 cCM021 cCM023 cCM024 cCM025 cCM026 cCM027
    cCM028 cCM029 cCM030 cCM033 cCM034 cCM035 cCM036 cCM037 cCM038 cCM039 cCM040 cCM041 cCM044
    cCM046 cCM047 cCM049 cCM050 cCM051 cCM052 cCM053 cCM054 cCM055 cCM056 cCM058 cCM059 cCM060
    cCM061 cCM062 cCM063 cCM064 cCM066 cCM067 cCM068 cCM069 cCM070 cCM071 cCM072 cCM073 cCM074
    cCM075 cCM075B cCM076 cCM078 cCM079 cCM080 cCM081 cCM082 cCM083 cCM084 cCM085 cCM086 cCM087
    cCM088 cCM089 cCM090 cCM091 cCM092 cCM094 cCM095 cCM096 cCM097 cCM098 cCM099 cCM100 cCM101
    cCM102 cCM103 cCM104 cCM105 cCM107 cCM108 cCM109 cCM110 cCM112 cCM114 cCM301 cCM302"⟩]

end OpScaffold.CharName
