import OpScaffold.Text.CharName.Basic

/-!
# OpScaffold.Text.CharName.Hieroglyphs

The names of hieroglyphs in Unicode 14.
-/

namespace OpScaffold.CharName

/-- Names of hieroglyphs. -/
def hieroglyphNames : List NameRun := [
  ⟨0x13000, "aEGYPTIAN HIEROGLYPH A001 cA002 cA003 cA004 cA005 cA005A cA006 cA006A cA006B cA007
    cA008 cA009 cA010 cA011 cA012 cA013 cA014 cA014A cA015 cA016 cA017 cA017A cA018 cA019 cA020
    cA021 cA022 cA023 cA024 cA025 cA026 cA027 cA028 cA029 cA030 cA031 cA032 cA032A cA033 cA034
    cA035 cA036 cA037 cA038 cA039 cA040 cA040A cA041 cA042 cA042A cA043 cA043A cA044 cA045 cA045A
    cA046 cA047 cA048 cA049 cA050 cA051 cA052 cA053 cA054 cA055 cA056 cA057 cA058 cA059 cA060
    cA061 cA062 cA063 cA064 cA065 cA066 cA067 cA068 cA069 cA070 cB001 cB002 cB003 cB004 cB005
    cB005A cB006 cB007 cB008 cB009 cC001 cC002 cC002A cC002B cC002C cC003 cC004 cC005 cC006 cC007
    cC008 cC009 cC010 cC010A cC011 cC012 cC013 cC014 cC015 cC016 cC017 cC018 cC019 cC020 cC021
    cC022 cC023 cC024 cD001 cD002 cD003 cD004 cD005 cD006 cD007 cD008 cD008A cD009 cD010 cD011
    cD012 cD013 cD014 cD015 cD016 cD017 cD018 cD019 cD020 cD021 cD022 cD023 cD024 cD025 cD026
    cD027 cD027A cD028 cD029 cD030 cD031 cD031A cD032 cD033 cD034 cD034A cD035 cD036 cD037 cD038
    cD039 cD040 cD041 cD042 cD043 cD044 cD045 cD046 cD046A cD047 cD048 cD048A cD049 cD050 cD050A
    cD050B cD050C cD050D cD050E cD050F cD050G cD050H cD050I cD051 cD052 cD052A cD053 cD054 cD054A
    cD055 cD056 cD057 cD058 cD059 cD060 cD061 cD062 cD063 cD064 cD065 cD066 cD067 cD067A cD067B
    cD067C cD067D cD067E cD067F cD067G cD067H cE001 cE002 cE003 cE004 cE005 cE006 cE007 cE008
    cE008A cE009 cE009A cE010 cE011 cE012 cE013 cE014 cE015 cE016 cE016A cE017 cE017A cE018 cE019
    cE020 cE020A cE021 cE022 cE023 cE024 cE025 cE026 cE027 cE028 cE028A cE029 cE030 cE031 cE032
    cE033 cE034 cE034A cE036 cE037 cE038 cF001 cF001A cF002 cF003 cF004 cF005 cF006 cF007 cF008
    cF009 cF010 cF011 cF012 cF013 cF013A cF014 cF015 cF016 cF017 cF018 cF019 cF020 cF021 cF021A
    cF022 cF023 cF024 cF025 cF026 cF027 cF028 cF029 cF030 cF031 cF031A cF032 cF033 cF034 cF035
    cF036 cF037 cF037A cF038 cF038A cF039 cF040 cF041 cF042 cF043 cF044 cF045 cF045A cF046 cF046A
    cF047 cF047A cF048 cF049 cF050 cF051 cF051A cF051B cF051C cF052 cF053 cG001 cG002 cG003 cG004
    cG005 cG006 cG006A cG007 cG007A cG007B cG008 cG009 cG010 cG011 cG011A cG012 cG013 cG014 cG015
    cG016 cG017 cG018 cG019 cG020 cG020A cG021 cG022 cG023 cG024 cG025 cG026 cG026A cG027 cG028
    cG029 cG030 cG031 cG032 cG033 cG034 cG035 cG036 cG036A cG037 cG037A cG038 cG039 cG040 cG041
    cG042 cG043 cG043A cG044 cG045 cG045A cG046 cG047 cG048 cG049 cG050 cG051 cG052 cG053 cG054
    cH001 cH002 cH003 cH004 cH005 cH006 cH006A cH007 cH008 cI001 cI002 cI003 cI004 cI005 cI005A
    cI006 cI007 cI008 cI009 cI009A cI010 cI010A cI011 cI011A cI012 cI013 cI014 cI015 cK001 cK002
    cK003 cK004 cK005 cK006 cK007 cK008 cL001 cL002 cL002A cL003 cL004 cL005 cL006 cL006A cL007
    cL008 cM001 cM001A cM001B cM002 cM003 cM003A cM004 cM005 cM006 cM007 cM008 cM009 cM010 cM010A
    cM011 cM012 cM012A cM012B cM012C cM012D cM012E cM012F cM012G cM012H cM013 cM014 cM015 cM015A
    cM016 cM016A cM017 cM017A cM018 cM019 cM020 cM021 cM022 cM022A cM023 cM024 cM024A cM025 cM026
    cM027 cM028 cM028A cM029 cM030 cM031 cM031A cM032 cM033 cM033A cM033B cM034 cM035 cM036 cM037
    cM038 cM039 cM040 cM040A cM041 cM042 cM043 cM044 cN001 cN002 cN003 cN004 cN005 cN006 cN007
    cN008 cN009 cN010 cN011 cN012 cN013 cN014 cN015 cN016 cN017 cN018 cN018A cN018B cN019 cN020
    cN021 cN022 cN023 cN024 cN025 cN025A cN026 cN027 cN028 cN029 cN030 cN031 cN032 cN033 cN033A
    cN034 cN034A cN035 cN035A cN036 cN037 cN037A cN038 cN039 cN040 cN041 cN042 cNL001 cNL002
    cNL003 cNL004 cNL005 cNL005A cNL006 cNL007 cNL008 cNL009 cNL010 cNL011 cNL012 cNL013 cNL014
    cNL015 cNL016 cNL017 cNL017A cNL018 cNL019 cNL020 cNU001 cNU002 cNU003 cNU004 cNU005 cNU006
    cNU007 cNU008 cNU009 cNU010 cNU010A cNU011 cNU011A cNU012 cNU013 cNU014 cNU015 cNU016 cNU017
    cNU018 cNU018A cNU019 cNU020 cNU021 cNU022 cNU022A cO001 cO001A cO002 cO003 cO004 cO005
    cO005A cO006 cO006A cO006B cO006C cO006D cO006E cO006F cO007 cO008 cO009 cO010 cO010A cO010B
    cO010C cO011 cO012 cO013 cO014 cO015 cO016 cO017 cO018 cO019 cO019A cO020 cO020A cO021 cO022
    cO023 cO024 cO024A cO025 cO025A cO026 cO027 cO028 cO029 cO029A cO030 cO030A cO031 cO032 cO033
    cO033A cO034 cO035 cO036 cO036A cO036B cO036C cO036D cO037 cO038 cO039 cO040 cO041 cO042
    cO043 cO044 cO045 cO046 cO047 cO048 cO049 cO050 cO050A cO050B cO051 cP001 cP001A cP002 cP003
    cP003A cP004 cP005 cP006 cP007 cP008 cP009 cP010 cP011 cQ001 cQ002 cQ003 cQ004 cQ005 cQ006
    cQ007 cR001 cR002 cR002A cR003 cR003A cR003B cR004 cR005 cR006 cR007 cR008 cR009 cR010 cR010A
    cR011 cR012 cR013 cR014 cR015 cR016 cR016A cR017 cR018 cR019 cR020 cR021 cR022 cR023 cR024
    cR025 cR026 cR027 cR028 cR029 cS001 cS002 cS002A cS003 cS004 cS005 cS006 cS006A cS007 cS008
    cS009 cS010 cS011 cS012 cS013 cS014 cS014A cS014B cS015 cS016 cS017 cS017A cS018 cS019 cS020
    cS021 cS022 cS023 cS024 cS025 cS026 cS026A cS026B cS027 cS028 cS029 cS030 cS031 cS032 cS033
    cS034 cS035 cS035A cS036 cS037 cS038 cS039 cS040 cS041 cS042 cS043 cS044 cS045 cS046 cT001
    cT002 cT003 cT003A cT004 cT005 cT006 cT007 cT007A cT008 cT008A cT009 cT009A cT010 cT011
    cT011A cT012 cT013 cT014 cT015 cT016 cT016A cT017 cT018 cT019 cT020 cT021 cT022 cT023 cT024
    cT025 cT026 cT027 cT028 cT029 cT030 cT031 cT032 cT032A cT033 cT033A cT034 cT035 cT036 cU001
    cU002 cU003 cU004 cU005 cU006 cU006A cU006B cU007 cU008 cU009 cU010 cU011 cU012 cU013 cU014
    cU015 cU016 cU017 cU018 cU019 cU020 cU021 cU022 cU023 cU023A cU024 cU025 cU026 cU027 cU028
    cU029 cU029A cU030 cU031 cU032 cU032A cU033 cU034 cU035 cU036 cU037 cU038 cU039 cU040 cU041
    cU042 cV001 cV001A cV001B cV001C cV001D cV001E cV001F cV001G cV001H cV001I cV002 cV002A cV003
    cV004 cV005 cV006 cV007 cV007A cV007B cV008 cV009 cV010 cV011 cV011A cV011B cV011C cV012
    cV012A cV012B cV013 cV014 cV015 cV016 cV017 cV018 cV019 cV020 cV020A cV020B cV020C cV020D
    cV020E cV020F cV020G cV020H cV020I cV020J cV020K cV020L cV021 cV022 cV023 cV023A cV024 cV025
    cV026 cV027 cV028 cV028A cV029 cV029A cV030 cV030A cV031 cV031A cV032 cV033 cV033A cV034
    cV035 cV036 cV037 cV037A cV038 cV039 cV040 cV040A cW001 cW002 cW003 cW003A cW004 cW005 cW006
    cW007 cW008 cW009 cW009A cW010 cW010A cW011 cW012 cW013 cW014 cW014A cW015 cW016 cW017 cW017A
    cW018 cW018A cW019 cW020 cW021 cW022 cW023 cW024 cW024A cW025 cX001 cX002 cX003 cX004 cX004A
    cX004B cX005 cX006 cX006A cX007 cX008 cX008A cY001 cY001A cY002 cY003 cY004 cY005 cY006 cY007
    cY008 cZ001 cZ002 cZ002A cZ002B cZ002C cZ002D cZ003 cZ003A cZ003B cZ004 cZ004A cZ005 cZ005A
    cZ006 cZ007 cZ008 cZ009 cZ010 cZ011 cZ012 cZ013 cZ014 cZ015 cZ015A cZ015B cZ015C cZ015D
    cZ015E cZ015F cZ015G cZ015H cZ015I cZ016 cZ016A cZ016B cZ016C cZ016D cZ016E cZ016F cZ016G
    cZ016H cAA001 cAA002 cAA003 cAA004 cAA005 cAA006 cAA007 cAA007A cAA007B cAA008 cAA009 cAA010
    cAA011 cAA012 cAA013 cAA014 cAA015 cAA016 cAA017 cAA018 cAA019 cAA020 cAA021 cAA022 cAA023
    cAA024 cAA025 cAA026 cAA027 cAA028 cAA029 cAA030 cAA031 cAA032"⟩,
  ⟨0x13430, "aEGYPTIAN HIEROGLYPH VERTICAL JOINER cHORIZONTAL JOINER cINSERT AT TOP START
    eBOTTOM START eTOP END eBOTTOM END cOVERLAY MIDDLE cBEGIN SEGMENT cEND SEGMENT"⟩,
  ⟨0x14400, "aANATOLIAN HIEROGLYPH A001 cA002 cA003 cA004 cA005 cA006 cA007 cA008 cA009 cA010
    cA010A cA011 cA012 cA013 cA014 cA015 cA016 cA017 cA018 cA019 cA020 cA021 cA022 cA023 cA024
    cA025 cA026 cA026A cA027 cA028 cA029 cA030 cA031 cA032 cA033 cA034 cA035 cA036 cA037 cA038
    cA039 cA039A cA040 cA041 cA041A cA042 cA043 cA044 cA045 cA045A cA046 cA046A cA046B cA047
    cA048 cA049 cA050 cA051 cA052 cA053 cA054 cA055 cA056 cA057 cA058 cA059 cA060 cA061 cA062
    cA063 cA064 cA065 cA066 cA066A cA066B cA066C cA067 cA068 cA069 cA070 cA071 cA072 cA073 cA074
    cA075 cA076 cA077 cA078 cA079 cA080 cA081 cA082 cA083 cA084 cA085 cA086 cA087 cA088 cA089
    cA090 cA091 cA092 cA093 cA094 cA095 cA096 cA097 cA097A cA098 cA098A cA099 cA100 cA100A cA101
    cA101A cA102 cA102A cA103 cA104 cA104A cA104B cA104C cA105 cA105A cA105B cA106 cA107 cA107A
    cA107B cA107C cA108 cA109 cA110 cA110A cA110B cA111 cA112 cA113 cA114 cA115 cA115A cA116
    cA117 cA118 cA119 cA120 cA121 cA122 cA123 cA124 cA125 cA125A cA126 cA127 cA128 cA129 cA130
    cA131 cA132 cA133 cA134 cA135 cA135A cA136 cA137 cA138 cA139 cA140 cA141 cA142 cA143 cA144
    cA145 cA146 cA147 cA148 cA149 cA150 cA151 cA152 cA153 cA154 cA155 cA156 cA157 cA158 cA159
    cA160 cA161 cA162 cA163 cA164 cA165 cA166 cA167 cA168 cA169 cA170 cA171 cA172 cA173 cA174
    cA175 cA176 cA177 cA178 cA179 cA180 cA181 cA182 cA183 cA184 cA185 cA186 cA187 cA188 cA189
    cA190 cA191 cA192 cA193 cA194 cA195 cA196 cA197 cA198 cA199 cA200 cA201 cA202 cA202A cA202B
    cA203 cA204 cA205 cA206 cA207 cA207A cA208 cA209 cA209A cA210 cA211 cA212 cA213 cA214 cA215
    cA215A cA216 cA216A cA217 cA218 cA219 cA220 cA221 cA222 cA223 cA224 cA225 cA226 cA227 cA227A
    cA228 cA229 cA230 cA231 cA232 cA233 cA234 cA235 cA236 cA237 cA238 cA239 cA240 cA241 cA242
    cA243 cA244 cA245 cA246 cA247 cA248 cA249 cA250 cA251 cA252 cA253 cA254 cA255 cA256 cA257
    cA258 cA259 cA260 cA261 cA262 cA263 cA264 cA265 cA266 cA267 cA267A cA268 cA269 cA270 cA271
    cA272 cA273 cA274 cA275 cA276 cA277 cA278 cA279 cA280 cA281 cA282 cA283 cA284 cA285 cA286
    cA287 cA288 cA289 cA289A cA290 cA291 cA292 cA293 cA294 cA294A cA295 cA296 cA297 cA298 cA299
    cA299A cA300 cA301 cA302 cA303 cA304 cA305 cA306 cA307 cA308 cA309 cA309A cA310 cA311 cA312
    cA313 cA314 cA315 cA316 cA317 cA318 cA319 cA320 cA321 cA322 cA323 cA324 cA325 cA326 cA327
    cA328 cA329 cA329A cA330 cA331 cA332A cA332B cA332C cA333 cA334 cA335 cA336 cA336A cA336B
    cA336C cA337 cA338 cA339 cA340 cA341 cA342 cA343 cA344 cA345 cA346 cA347 cA348 cA349 cA350
    cA351 cA352 cA353 cA354 cA355 cA356 cA357 cA358 cA359 cA359A cA360 cA361 cA362 cA363 cA364
    cA364A cA365 cA366 cA367 cA368 cA368A cA369 cA370 cA371 cA371A cA372 cA373 cA374 cA375 cA376
    cA377 cA378 cA379 cA380 cA381 cA381A cA382 cA383 RA OR RI cA383A cA384 cA385 cA386 cA386A
    cA387 cA388 cA389 cA390 cA391 cA392 cA393 EIGHT cA394 cA395 cA396 cA397 cA398 cA399 cA400
    cA401 cA402 cA403 cA404 cA405 cA406 cA407 cA408 cA409 cA410 BEGIN LOGOGRAM MARK
    cA410A END LOGOGRAM MARK cA411 cA412 cA413 cA414 cA415 cA416 cA417 cA418 cA419 cA420 cA421
    cA422 cA423 cA424 cA425 cA426 cA427 cA428 cA429 cA430 cA431 cA432 cA433 cA434 cA435 cA436
    cA437 cA438 cA439 cA440 cA441 cA442 cA443 cA444 cA445 cA446 cA447 cA448 cA449 cA450 cA450A
    cA451 cA452 cA453 cA454 cA455 cA456 cA457 cA457A cA458 cA459 cA460 cA461 cA462 cA463 cA464
    cA465 cA466 cA467 cA468 cA469 cA470 cA471 cA472 cA473 cA474 cA475 cA476 cA477 cA478 cA479
    cA480 cA481 cA482 cA483 cA484 cA485 cA486 cA487 cA488 cA489 cA490 cA491 cA492 cA493 cA494
    cA495 cA496 cA497 cA501 cA502 cA503 cA504 cA505 cA506 cA507 cA508 cA509 cA510 cA511 cA512
    cA513 cA514 cA515 cA516 cA517 cA518 cA519 cA520 cA521 cA522 cA523 cA524 cA525 cA526 cA527
    cA528 cA529 cA530"⟩]

end OpScaffold.CharName
