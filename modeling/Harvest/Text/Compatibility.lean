import Harvest.Text.CodeMap

/-!
Folding that leaves aside case, compatibility variants and characters that are ignored.
-/

namespace Harvest.Text

/-- The image of each character under the folding of compatibility variants and case. -/
def compatibilityFolding : CodeMap := CodeMap.ofTable
  "41=61 5B= A0=20 A1= A8=20+308 A9= AA=61 AB= AD=- AE= AF=20+304 B0= B2=32 B4=20+301 B5=3BC B6=
    B8=20+327 B9=31 BA=6F BB= BC=31+2044+34 BD=31+2044+32 BE=33+2044+34 BF= C0=E0 D7= D8=F8
    DF=73+73 E0= 100=101 101= 102=103 103= 104=105 105= 106=107 107= 108=109 109= 10A=10B 10B=
    10C=10D 10D= 10E=10F 10F= 110=111 111= 112=113 113= 114=115 115= 116=117 117= 118=119 119=
    11A=11B 11B= 11C=11D 11D= 11E=11F 11F= 120=121 121= 122=123 123= 124=125 125= 126=127 127=
    128=129 129= 12A=12B 12B= 12C=12D 12D= 12E=12F 12F= 130=69+307 131= 132=69+6A 133=69+6A
    134=135 135= 136=137 137= 139=13A 13A= 13B=13C 13C= 13D=13E 13E= 13F=6C+B7 140=6C+B7 141=142
    142= 143=144 144= 145=146 146= 147=148 148= 149=2BC+6E 14A=14B 14B= 14C=14D 14D= 14E=14F 14F=
    150=151 151= 152=153 153= 154=155 155= 156=157 157= 158=159 159= 15A=15B 15B= 15C=15D 15D=
    15E=15F 15F= 160=161 161= 162=163 163= 164=165 165= 166=167 167= 168=169 169= 16A=16B 16B=
    16C=16D 16D= 16E=16F 16F= 170=171 171= 172=173 173= 174=175 175= 176=177 177= 178=FF 179=17A
    17A= 17B=17C 17C= 17D=17E 17E= 17F=73 180= 181=253 182=183 183= 184=185 185= 186=254 187=188
    188= 189=256 18B=18C 18C= 18E=1DD 18F=259 190=25B 191=192 192= 193=260 194=263 195= 196=269
    197=268 198=199 199= 19C=26F 19D=272 19E= 19F=275 1A0=1A1 1A1= 1A2=1A3 1A3= 1A4=1A5 1A5=
    1A6=280 1A7=1A8 1A8= 1A9=283 1AA= 1AC=1AD 1AD= 1AE=288 1AF=1B0 1B0= 1B1=28A 1B3=1B4 1B4=
    1B5=1B6 1B6= 1B7=292 1B8=1B9 1B9= 1BC=1BD 1BD= 1C4=64+17E 1C5=64+17E 1C6=64+17E 1C7=6C+6A
    1C8=6C+6A 1C9=6C+6A 1CA=6E+6A 1CB=6E+6A 1CC=6E+6A 1CD=1CE 1CE= 1CF=1D0 1D0= 1D1=1D2 1D2=
    1D3=1D4 1D4= 1D5=1D6 1D6= 1D7=1D8 1D8= 1D9=1DA 1DA= 1DB=1DC 1DC= 1DE=1DF 1DF= 1E0=1E1 1E1=
    1E2=1E3 1E3= 1E4=1E5 1E5= 1E6=1E7 1E7= 1E8=1E9 1E9= 1EA=1EB 1EB= 1EC=1ED 1ED= 1EE=1EF 1EF=
    1F1=64+7A 1F2=64+7A 1F3=64+7A 1F4=1F5 1F5= 1F6=195 1F7=1BF 1F8=1F9 1F9= 1FA=1FB 1FB= 1FC=1FD
    1FD= 1FE=1FF 1FF= 200=201 201= 202=203 203= 204=205 205= 206=207 207= 208=209 209= 20A=20B
    20B= 20C=20D 20D= 20E=20F 20F= 210=211 211= 212=213 213= 214=215 215= 216=217 217= 218=219
    219= 21A=21B 21B= 21C=21D 21D= 21E=21F 21F= 220=19E 221= 222=223 223= 224=225 225= 226=227
    227= 228=229 229= 22A=22B 22B= 22C=22D 22D= 22E=22F 22F= 230=231 231= 232=233 233= 23A=2C65
    23B=23C 23C= 23D=19A 23E=2C66 23F= 241=242 242= 243=180 244=289 245=28C 246=247 247= 248=249
    249= 24A=24B 24B= 24C=24D 24D= 24E=24F 24F= 2B0=68 2B1=266 2B2=6A 2B3=72 2B4=279 2B5=27B
    2B6=281 2B7=77 2B8=79 2B9= 2D8=20+306 2D9=20+307 2DA=20+30A 2DB=20+328 2DC=20+303 2DD=20+30B
    2DE= 2E0=263 2E1=6C 2E2=73 2E3=78 2E4=295 2E5= 340=300 342= 343=313 344=308+301 345=3B9 346=
    34F=- 350= 370=371 371= 372=373 373= 374=2B9 375= 376=377 377= 37A=20+3B9 37B= 37E=3B 37F=3F3
    380= 384=20+301 385=20+308+301 386=3AC 387=B7 388=3AD 38B= 38C=3CC 38D= 38E=3CD 390= 391=3B1
    3A2= 3A3=3C3 3AC= 3C2=3C3 3C3= 3CF=3D7 3D0=3B2 3D1=3B8 3D2=3C5 3D3=3CD 3D4=3CB 3D5=3C6 3D6=3C0
    3D7= 3D8=3D9 3D9= 3DA=3DB 3DB= 3DC=3DD 3DD= 3DE=3DF 3DF= 3E0=3E1 3E1= 3E2=3E3 3E3= 3E4=3E5
    3E5= 3E6=3E7 3E7= 3E8=3E9 3E9= 3EA=3EB 3EB= 3EC=3ED 3ED= 3EE=3EF 3EF= 3F0=3BA 3F1=3C1 3F2=3C3
    3F3= 3F4=3B8 3F5=3B5 3F6= 3F7=3F8 3F8= 3F9=3C3 3FA=3FB 3FB= 3FD=37B 400=450 410=430 430=
    460=461 461= 462=463 463= 464=465 465= 466=467 467= 468=469 469= 46A=46B 46B= 46C=46D 46D=
    46E=46F 46F= 470=471 471= 472=473 473= 474=475 475= 476=477 477= 478=479 479= 47A=47B 47B=
    47C=47D 47D= 47E=47F 47F= 480=481 481= 48A=48B 48B= 48C=48D 48D= 48E=48F 48F= 490=491 491=
    492=493 493= 494=495 495= 496=497 497= 498=499 499= 49A=49B 49B= 49C=49D 49D= 49E=49F 49F=
    4A0=4A1 4A1= 4A2=4A3 4A3= 4A4=4A5 4A5= 4A6=4A7 4A7= 4A8=4A9 4A9= 4AA=4AB 4AB= 4AC=4AD 4AD=
    4AE=4AF 4AF= 4B0=4B1 4B1= 4B2=4B3 4B3= 4B4=4B5 4B5= 4B6=4B7 4B7= 4B8=4B9 4B9= 4BA=4BB 4BB=
    4BC=4BD 4BD= 4BE=4BF 4BF= 4C0=4CF 4C1=4C2 4C2= 4C3=4C4 4C4= 4C5=4C6 4C6= 4C7=4C8 4C8= 4C9=4CA
    4CA= 4CB=4CC 4CC= 4CD=4CE 4CE= 4D0=4D1 4D1= 4D2=4D3 4D3= 4D4=4D5 4D5= 4D6=4D7 4D7= 4D8=4D9
    4D9= 4DA=4DB 4DB= 4DC=4DD 4DD= 4DE=4DF 4DF= 4E0=4E1 4E1= 4E2=4E3 4E3= 4E4=4E5 4E5= 4E6=4E7
    4E7= 4E8=4E9 4E9= 4EA=4EB 4EB= 4EC=4ED 4ED= 4EE=4EF 4EF= 4F0=4F1 4F1= 4F2=4F3 4F3= 4F4=4F5
    4F5= 4F6=4F7 4F7= 4F8=4F9 4F9= 4FA=4FB 4FB= 4FC=4FD 4FD= 4FE=4FF 4FF= 500=501 501= 502=503
    503= 504=505 505= 506=507 507= 508=509 509= 50A=50B 50B= 50C=50D 50D= 50E=50F 50F= 510=511
    511= 512=513 513= 514=515 515= 516=517 517= 518=519 519= 51A=51B 51B= 51C=51D 51D= 51E=51F
    51F= 520=521 521= 522=523 523= 524=525 525= 526=527 527= 528=529 529= 52A=52B 52B= 52C=52D
    52D= 52E=52F 52F= 531=561 557= 587=565+582 588= 61C=- 61D= 675=627+674 676=648+674 677=6C7+674
    678=64A+674 679= 958=915+93C 959=916+93C 95A=917+93C 95B=91C+93C 95C=921+93C 95D=922+93C
    95E=92B+93C 95F=92F+93C 960= 9DC=9A1+9BC 9DD=9A2+9BC 9DE= 9DF=9AF+9BC 9E0= A33=A32+A3C A34=
    A36=A38+A3C A37= A59=A16+A3C A5A=A17+A3C A5B=A1C+A3C A5C= A5E=A2B+A3C A5F= B5C=B21+B3C
    B5D=B22+B3C B5E= E33=E4D+E32 E34= EB3=ECD+EB2 EB4= EDC=EAB+E99 EDD=EAB+EA1 EDE= F0C=F0B F0D=
    F43=F42+FB7 F44= F4D=F4C+FB7 F4E= F52=F51+FB7 F53= F57=F56+FB7 F58= F5C=F5B+FB7 F5D=
    F69=F40+FB5 F6A= F73=F71+F72 F74= F75=F71+F74 F76=FB2+F80 F77=FB2+F71+F80 F78=FB3+F80
    F79=FB3+F71+F80 F7A= F81=F71+F80 F82= F93=F92+FB7 F94= F9D=F9C+FB7 F9E= FA2=FA1+FB7 FA3=
    FA7=FA6+FB7 FA8= FAC=FAB+FB7 FAD= FB9=F90+FB5 FBA= 10A0=2D00 10C6= 10C7=2D27 10C8= 10CD=2D2D
    10CE= 10FC=10DC 10FD= 115F=- 1160=- 1161= 13F8=13F0 13FE= 17B4=- 17B5=- 17B6= 180B=- 180C=-
    180D=- 180E=- 180F=- 1810= 1C80=432 1C81=434 1C82=43E 1C83=441 1C85=442 1C86=44A 1C87=463
    1C88=A64B 1C89= 1C90=10D0 1CBB= 1CBD=10FD 1CC0= 1D2C=61 1D2D=E6 1D2E=62 1D2F= 1D30=64 1D32=1DD
    1D33=67 1D3B= 1D3C=6F 1D3D=223 1D3E=70 1D3F=72 1D40=74 1D42=77 1D43=61 1D44=250 1D46=1D02
    1D47=62 1D48=64 1D4A=259 1D4B=25B 1D4D=67 1D4E= 1D4F=6B 1D50=6D 1D51=14B 1D52=6F 1D53=254
    1D54=1D16 1D56=70 1D57=74 1D59=1D1D 1D5A=26F 1D5B=76 1D5C=1D25 1D5D=3B2 1D60=3C6 1D62=69
    1D63=72 1D64=75 1D66=3B2 1D68=3C1 1D69=3C6 1D6B= 1D78=43D 1D79= 1D9B=252 1D9C=63 1D9D=255
    1D9E=F0 1D9F=25C 1DA0=66 1DA1=25F 1DA2=261 1DA3=265 1DA4=268 1DA7=1D7B 1DA8=29D 1DA9=26D
    1DAA=1D85 1DAB=29F 1DAC=271 1DAD=270 1DAE=272 1DB2=278 1DB3=282 1DB5=1AB 1DB6=289 1DB8=1D1C
    1DB9=28B 1DBB=7A 1DBC=290 1DBF=3B8 1DC0= 1E00=1E01 1E01= 1E02=1E03 1E03= 1E04=1E05 1E05=
    1E06=1E07 1E07= 1E08=1E09 1E09= 1E0A=1E0B 1E0B= 1E0C=1E0D 1E0D= 1E0E=1E0F 1E0F= 1E10=1E11
    1E11= 1E12=1E13 1E13= 1E14=1E15 1E15= 1E16=1E17 1E17= 1E18=1E19 1E19= 1E1A=1E1B 1E1B=
    1E1C=1E1D 1E1D= 1E1E=1E1F 1E1F= 1E20=1E21 1E21= 1E22=1E23 1E23= 1E24=1E25 1E25= 1E26=1E27
    1E27= 1E28=1E29 1E29= 1E2A=1E2B 1E2B= 1E2C=1E2D 1E2D= 1E2E=1E2F 1E2F= 1E30=1E31 1E31=
    1E32=1E33 1E33= 1E34=1E35 1E35= 1E36=1E37 1E37= 1E38=1E39 1E39= 1E3A=1E3B 1E3B= 1E3C=1E3D
    1E3D= 1E3E=1E3F 1E3F= 1E40=1E41 1E41= 1E42=1E43 1E43= 1E44=1E45 1E45= 1E46=1E47 1E47=
    1E48=1E49 1E49= 1E4A=1E4B 1E4B= 1E4C=1E4D 1E4D= 1E4E=1E4F 1E4F= 1E50=1E51 1E51= 1E52=1E53
    1E53= 1E54=1E55 1E55= 1E56=1E57 1E57= 1E58=1E59 1E59= 1E5A=1E5B 1E5B= 1E5C=1E5D 1E5D=
    1E5E=1E5F 1E5F= 1E60=1E61 1E61= 1E62=1E63 1E63= 1E64=1E65 1E65= 1E66=1E67 1E67= 1E68=1E69
    1E69= 1E6A=1E6B 1E6B= 1E6C=1E6D 1E6D= 1E6E=1E6F 1E6F= 1E70=1E71 1E71= 1E72=1E73 1E73=
    1E74=1E75 1E75= 1E76=1E77 1E77= 1E78=1E79 1E79= 1E7A=1E7B 1E7B= 1E7C=1E7D 1E7D= 1E7E=1E7F
    1E7F= 1E80=1E81 1E81= 1E82=1E83 1E83= 1E84=1E85 1E85= 1E86=1E87 1E87= 1E88=1E89 1E89=
    1E8A=1E8B 1E8B= 1E8C=1E8D 1E8D= 1E8E=1E8F 1E8F= 1E90=1E91 1E91= 1E92=1E93 1E93= 1E94=1E95
    1E95= 1E9A=61+2BE 1E9B=1E61 1E9C= 1E9E=73+73 1E9F= 1EA0=1EA1 1EA1= 1EA2=1EA3 1EA3= 1EA4=1EA5
    1EA5= 1EA6=1EA7 1EA7= 1EA8=1EA9 1EA9= 1EAA=1EAB 1EAB= 1EAC=1EAD 1EAD= 1EAE=1EAF 1EAF=
    1EB0=1EB1 1EB1= 1EB2=1EB3 1EB3= 1EB4=1EB5 1EB5= 1EB6=1EB7 1EB7= 1EB8=1EB9 1EB9= 1EBA=1EBB
    1EBB= 1EBC=1EBD 1EBD= 1EBE=1EBF 1EBF= 1EC0=1EC1 1EC1= 1EC2=1EC3 1EC3= 1EC4=1EC5 1EC5=
    1EC6=1EC7 1EC7= 1EC8=1EC9 1EC9= 1ECA=1ECB 1ECB= 1ECC=1ECD 1ECD= 1ECE=1ECF 1ECF= 1ED0=1ED1
    1ED1= 1ED2=1ED3 1ED3= 1ED4=1ED5 1ED5= 1ED6=1ED7 1ED7= 1ED8=1ED9 1ED9= 1EDA=1EDB 1EDB=
    1EDC=1EDD 1EDD= 1EDE=1EDF 1EDF= 1EE0=1EE1 1EE1= 1EE2=1EE3 1EE3= 1EE4=1EE5 1EE5= 1EE6=1EE7
    1EE7= 1EE8=1EE9 1EE9= 1EEA=1EEB 1EEB= 1EEC=1EED 1EED= 1EEE=1EEF 1EEF= 1EF0=1EF1 1EF1=
    1EF2=1EF3 1EF3= 1EF4=1EF5 1EF5= 1EF6=1EF7 1EF7= 1EF8=1EF9 1EF9= 1EFA=1EFB 1EFB= 1EFC=1EFD
    1EFD= 1EFE=1EFF 1EFF= 1F08=1F00 1F10= 1F18=1F10 1F1E= 1F28=1F20 1F30= 1F38=1F30 1F40=
    1F48=1F40 1F4E= 1F59=1F51 1F5A= 1F5B=1F53 1F5C= 1F5D=1F55 1F5E= 1F5F=1F57 1F60= 1F68=1F60
    1F70= 1F71=3AC 1F72= 1F73=3AD 1F74= 1F75=3AE 1F76= 1F77=3AF 1F78= 1F79=3CC 1F7A= 1F7B=3CD
    1F7C= 1F7D=3CE 1F7E= 1F80=1F00+3B9 1F81=1F01+3B9 1F82=1F02+3B9 1F83=1F03+3B9 1F84=1F04+3B9
    1F85=1F05+3B9 1F86=1F06+3B9 1F87=1F07+3B9 1F88=1F00+3B9 1F89=1F01+3B9 1F8A=1F02+3B9
    1F8B=1F03+3B9 1F8C=1F04+3B9 1F8D=1F05+3B9 1F8E=1F06+3B9 1F8F=1F07+3B9 1F90=1F20+3B9
    1F91=1F21+3B9 1F92=1F22+3B9 1F93=1F23+3B9 1F94=1F24+3B9 1F95=1F25+3B9 1F96=1F26+3B9
    1F97=1F27+3B9 1F98=1F20+3B9 1F99=1F21+3B9 1F9A=1F22+3B9 1F9B=1F23+3B9 1F9C=1F24+3B9
    1F9D=1F25+3B9 1F9E=1F26+3B9 1F9F=1F27+3B9 1FA0=1F60+3B9 1FA1=1F61+3B9 1FA2=1F62+3B9
    1FA3=1F63+3B9 1FA4=1F64+3B9 1FA5=1F65+3B9 1FA6=1F66+3B9 1FA7=1F67+3B9 1FA8=1F60+3B9
    1FA9=1F61+3B9 1FAA=1F62+3B9 1FAB=1F63+3B9 1FAC=1F64+3B9 1FAD=1F65+3B9 1FAE=1F66+3B9
    1FAF=1F67+3B9 1FB0= 1FB2=1F70+3B9 1FB3=3B1+3B9 1FB4=3AC+3B9 1FB5= 1FB7=1FB6+3B9 1FB8=1FB0
    1FBA=1F70 1FBB=3AC 1FBC=3B1+3B9 1FBD=20+313 1FBE=3B9 1FBF=20+313 1FC0=20+342 1FC1=20+308+342
    1FC2=1F74+3B9 1FC3=3B7+3B9 1FC4=3AE+3B9 1FC5= 1FC7=1FC6+3B9 1FC8=1F72 1FC9=3AD 1FCA=1F74
    1FCB=3AE 1FCC=3B7+3B9 1FCD=20+313+300 1FCE=20+313+301 1FCF=20+313+342 1FD0= 1FD3=390 1FD4=
    1FD8=1FD0 1FDA=1F76 1FDB=3AF 1FDC= 1FDD=20+314+300 1FDE=20+314+301 1FDF=20+314+342 1FE0=
    1FE3=3B0 1FE4= 1FE8=1FE0 1FEA=1F7A 1FEB=3CD 1FEC=1FE5 1FED=20+308+300 1FEE=20+308+301 1FEF=60
    1FF0= 1FF2=1F7C+3B9 1FF3=3C9+3B9 1FF4=3CE+3B9 1FF5= 1FF7=1FF6+3B9 1FF8=1F78 1FF9=3CC 1FFA=1F7C
    1FFB=3CE 1FFC=3C9+3B9 1FFD=20+301 1FFE=20+314 1FFF= 2000=20 2001=20 2002=20 2003=20 2004=20
    2005=20 2006=20 2007=20 2008=20 2009=20 200A=20 200B=- 200C=- 200D=- 200E=- 200F=- 2010=
    2011=2010 2012= 2017=20+333 2018= 2024=2E 2025=2E+2E 2026=2E+2E+2E 2027= 202A=- 202B=- 202C=-
    202D=- 202E=- 202F=20 2030= 2033=2032+2032 2034=2032+2032+2032 2035= 2036=2035+2035
    2037=2035+2035+2035 2038= 203C=21+21 203D= 203E=20+305 203F= 2047=3F+3F 2048=3F+21 2049=21+3F
    204A= 2057=2032+2032+2032+2032 2058= 205F=20 2060=- 2061=- 2062=- 2063=- 2064=- 2065=- 2066=-
    2067=- 2068=- 2069=- 206A=- 206B=- 206C=- 206D=- 206E=- 206F=- 2070=30 2071=69 2072= 2074=34
    207A=2B 207B=2212 207C=3D 207D=28 207F=6E 2080=30 208A=2B 208B=2212 208C=3D 208D=28 208F=
    2090=61 2091=65 2092=6F 2093=78 2094=259 2095=68 2096=6B 209A=70 209B=73 209D= 20A8=72+73
    20A9= 2100=61+2F+63 2101=61+2F+73 2102=63 2103=B0+63 2104= 2105=63+2F+6F 2106=63+2F+75
    2107=25B 2108= 2109=B0+66 210A=67 210C=68 210D=68 210E=68 210F=127 2110=69 2111=69 2112=6C
    2113=6C 2114= 2115=6E 2116=6E+6F 2117= 2119=70 211C=72 211D=72 211E= 2120=73+6D 2121=74+65+6C
    2122=74+6D 2123= 2124=7A 2125= 2126=3C9 2127= 2128=7A 2129= 212A=6B 212B=E5 212C=62 212E=
    212F=65 2130=65 2132=214E 2133=6D 2134=6F 2135=5D0 2139=69 213A= 213B=66+61+78 213C=3C0
    213D=3B3 213E=3B3 213F=3C0 2140=2211 2141= 2145=64 2146=64 2148=69 214A= 2150=31+2044+37
    2151=31+2044+39 2152=31+2044+31+30 2153=31+2044+33 2154=32+2044+33 2155=31+2044+35
    2156=32+2044+35 2157=33+2044+35 2158=34+2044+35 2159=31+2044+36 215A=35+2044+36
    215B=31+2044+38 215C=33+2044+38 215D=35+2044+38 215E=37+2044+38 215F=31+2044 2160=69
    2161=69+69 2162=69+69+69 2163=69+76 2164=76 2165=76+69 2166=76+69+69 2167=76+69+69+69
    2168=69+78 2169=78 216A=78+69 216B=78+69+69 216C=6C 216D=63 216F=6D 2170=69 2171=69+69
    2172=69+69+69 2173=69+76 2174=76 2175=76+69 2176=76+69+69 2177=76+69+69+69 2178=69+78 2179=78
    217A=78+69 217B=78+69+69 217C=6C 217D=63 217F=6D 2180= 2183=2184 2184= 2189=30+2044+33 218A=
    222C=222B+222B 222D=222B+222B+222B 222E= 222F=222E+222E 2230=222E+222E+222E 2231= 2329=3008
    232B= 2460=31 2469=31+30 246A=31+31 246B=31+32 246C=31+33 246D=31+34 246E=31+35 246F=31+36
    2470=31+37 2471=31+38 2472=31+39 2473=32+30 2474=28+31+29 2475=28+32+29 2476=28+33+29
    2477=28+34+29 2478=28+35+29 2479=28+36+29 247A=28+37+29 247B=28+38+29 247C=28+39+29
    247D=28+31+30+29 247E=28+31+31+29 247F=28+31+32+29 2480=28+31+33+29 2481=28+31+34+29
    2482=28+31+35+29 2483=28+31+36+29 2484=28+31+37+29 2485=28+31+38+29 2486=28+31+39+29
    2487=28+32+30+29 2488=31+2E 2489=32+2E 248A=33+2E 248B=34+2E 248C=35+2E 248D=36+2E 248E=37+2E
    248F=38+2E 2490=39+2E 2491=31+30+2E 2492=31+31+2E 2493=31+32+2E 2494=31+33+2E 2495=31+34+2E
    2496=31+35+2E 2497=31+36+2E 2498=31+37+2E 2499=31+38+2E 249A=31+39+2E 249B=32+30+2E
    249C=28+61+29 249D=28+62+29 249E=28+63+29 249F=28+64+29 24A0=28+65+29 24A1=28+66+29
    24A2=28+67+29 24A3=28+68+29 24A4=28+69+29 24A5=28+6A+29 24A6=28+6B+29 24A7=28+6C+29
    24A8=28+6D+29 24A9=28+6E+29 24AA=28+6F+29 24AB=28+70+29 24AC=28+71+29 24AD=28+72+29
    24AE=28+73+29 24AF=28+74+29 24B0=28+75+29 24B1=28+76+29 24B2=28+77+29 24B3=28+78+29
    24B4=28+79+29 24B5=28+7A+29 24B6=61 24D0=61 24EA=30 24EB= 2A0C=222B+222B+222B+222B 2A0D=
    2A74=3A+3A+3D 2A75=3D+3D 2A76=3D+3D+3D 2A77= 2ADC=2ADD+338 2ADD= 2C00=2C30 2C30= 2C60=2C61
    2C61= 2C62=26B 2C63=1D7D 2C64=27D 2C65= 2C67=2C68 2C68= 2C69=2C6A 2C6A= 2C6B=2C6C 2C6C=
    2C6D=251 2C6E=271 2C6F=250 2C70=252 2C71= 2C72=2C73 2C73= 2C75=2C76 2C76= 2C7C=6A 2C7D=76
    2C7E=23F 2C80=2C81 2C81= 2C82=2C83 2C83= 2C84=2C85 2C85= 2C86=2C87 2C87= 2C88=2C89 2C89=
    2C8A=2C8B 2C8B= 2C8C=2C8D 2C8D= 2C8E=2C8F 2C8F= 2C90=2C91 2C91= 2C92=2C93 2C93= 2C94=2C95
    2C95= 2C96=2C97 2C97= 2C98=2C99 2C99= 2C9A=2C9B 2C9B= 2C9C=2C9D 2C9D= 2C9E=2C9F 2C9F=
    2CA0=2CA1 2CA1= 2CA2=2CA3 2CA3= 2CA4=2CA5 2CA5= 2CA6=2CA7 2CA7= 2CA8=2CA9 2CA9= 2CAA=2CAB
    2CAB= 2CAC=2CAD 2CAD= 2CAE=2CAF 2CAF= 2CB0=2CB1 2CB1= 2CB2=2CB3 2CB3= 2CB4=2CB5 2CB5=
    2CB6=2CB7 2CB7= 2CB8=2CB9 2CB9= 2CBA=2CBB 2CBB= 2CBC=2CBD 2CBD= 2CBE=2CBF 2CBF= 2CC0=2CC1
    2CC1= 2CC2=2CC3 2CC3= 2CC4=2CC5 2CC5= 2CC6=2CC7 2CC7= 2CC8=2CC9 2CC9= 2CCA=2CCB 2CCB=
    2CCC=2CCD 2CCD= 2CCE=2CCF 2CCF= 2CD0=2CD1 2CD1= 2CD2=2CD3 2CD3= 2CD4=2CD5 2CD5= 2CD6=2CD7
    2CD7= 2CD8=2CD9 2CD9= 2CDA=2CDB 2CDB= 2CDC=2CDD 2CDD= 2CDE=2CDF 2CDF= 2CE0=2CE1 2CE1=
    2CE2=2CE3 2CE3= 2CEB=2CEC 2CEC= 2CED=2CEE 2CEE= 2CF2=2CF3 2CF3= 2D6F=2D61 2D70= 2E9F=6BCD
    2EA0= 2EF3=9F9F 2EF4= 2F00=4E00 2F01=4E28 2F02=4E36 2F03=4E3F 2F04=4E59 2F05=4E85 2F06=4E8C
    2F07=4EA0 2F08=4EBA 2F09=513F 2F0A=5165 2F0B=516B 2F0C=5182 2F0D=5196 2F0E=51AB 2F0F=51E0
    2F10=51F5 2F11=5200 2F12=529B 2F13=52F9 2F14=5315 2F15=531A 2F16=5338 2F17=5341 2F18=535C
    2F19=5369 2F1A=5382 2F1B=53B6 2F1C=53C8 2F1D=53E3 2F1E=56D7 2F1F=571F 2F20=58EB 2F21=5902
    2F22=590A 2F23=5915 2F24=5927 2F25=5973 2F26=5B50 2F27=5B80 2F28=5BF8 2F29=5C0F 2F2A=5C22
    2F2B=5C38 2F2C=5C6E 2F2D=5C71 2F2E=5DDB 2F2F=5DE5 2F30=5DF1 2F31=5DFE 2F32=5E72 2F33=5E7A
    2F34=5E7F 2F35=5EF4 2F36=5EFE 2F37=5F0B 2F38=5F13 2F39=5F50 2F3A=5F61 2F3B=5F73 2F3C=5FC3
    2F3D=6208 2F3E=6236 2F3F=624B 2F40=652F 2F41=6534 2F42=6587 2F43=6597 2F44=65A4 2F45=65B9
    2F46=65E0 2F47=65E5 2F48=66F0 2F49=6708 2F4A=6728 2F4B=6B20 2F4C=6B62 2F4D=6B79 2F4E=6BB3
    2F4F=6BCB 2F50=6BD4 2F51=6BDB 2F52=6C0F 2F53=6C14 2F54=6C34 2F55=706B 2F56=722A 2F57=7236
    2F58=723B 2F59=723F 2F5A=7247 2F5B=7259 2F5C=725B 2F5D=72AC 2F5E=7384 2F5F=7389 2F60=74DC
    2F61=74E6 2F62=7518 2F63=751F 2F64=7528 2F65=7530 2F66=758B 2F67=7592 2F68=7676 2F69=767D
    2F6A=76AE 2F6B=76BF 2F6C=76EE 2F6D=77DB 2F6E=77E2 2F6F=77F3 2F70=793A 2F71=79B8 2F72=79BE
    2F73=7A74 2F74=7ACB 2F75=7AF9 2F76=7C73 2F77=7CF8 2F78=7F36 2F79=7F51 2F7A=7F8A 2F7B=7FBD
    2F7C=8001 2F7D=800C 2F7E=8012 2F7F=8033 2F80=807F 2F81=8089 2F82=81E3 2F83=81EA 2F84=81F3
    2F85=81FC 2F86=820C 2F87=821B 2F88=821F 2F89=826E 2F8A=8272 2F8B=8278 2F8C=864D 2F8D=866B
    2F8E=8840 2F8F=884C 2F90=8863 2F91=897E 2F92=898B 2F93=89D2 2F94=8A00 2F95=8C37 2F96=8C46
    2F97=8C55 2F98=8C78 2F99=8C9D 2F9A=8D64 2F9B=8D70 2F9C=8DB3 2F9D=8EAB 2F9E=8ECA 2F9F=8F9B
    2FA0=8FB0 2FA1=8FB5 2FA2=9091 2FA3=9149 2FA4=91C6 2FA5=91CC 2FA6=91D1 2FA7=9577 2FA8=9580
    2FA9=961C 2FAA=96B6 2FAB=96B9 2FAC=96E8 2FAD=9751 2FAE=975E 2FAF=9762 2FB0=9769 2FB1=97CB
    2FB2=97ED 2FB3=97F3 2FB4=9801 2FB5=98A8 2FB6=98DB 2FB7=98DF 2FB8=9996 2FB9=9999 2FBA=99AC
    2FBB=9AA8 2FBC=9AD8 2FBD=9ADF 2FBE=9B25 2FBF=9B2F 2FC0=9B32 2FC1=9B3C 2FC2=9B5A 2FC3=9CE5
    2FC4=9E75 2FC5=9E7F 2FC6=9EA5 2FC7=9EBB 2FC8=9EC3 2FC9=9ECD 2FCA=9ED1 2FCB=9EF9 2FCC=9EFD
    2FCD=9F0E 2FCE=9F13 2FCF=9F20 2FD0=9F3B 2FD1=9F4A 2FD2=9F52 2FD3=9F8D 2FD4=9F9C 2FD5=9FA0
    2FD6= 3000=20 3001= 3036=3012 3037= 3038=5341 3039=5344 303B= 309B=20+3099 309C=20+309A 309D=
    309F=3088+308A 30A0= 30FF=30B3+30C8 3100= 3131=1100 3133=11AA 3134=1102 3135=11AC 3137=1103
    313A=11B0 3140=111A 3141=1106 3144=1121 3145=1109 314F=1161 3164=- 3165=1114 3167=11C7
    3169=11CC 316A=11CE 316B=11D3 316C=11D7 316D=11D9 316E=111C 316F=11DD 3170=11DF 3171=111D
    3173=1120 3174=1122 3176=1127 3177=1129 3178=112B 317D=1132 317E=1136 317F=1140 3180=1147
    3181=114C 3182=11F1 3184=1157 3187=1184 3189=1188 318A=1191 318C=1194 318D=119E 318E=11A1
    318F= 3192=4E00 3193=4E8C 3194=4E09 3195=56DB 3196=4E0A 3197=4E2D 3198=4E0B 3199=7532
    319A=4E59 319B=4E19 319C=4E01 319D=5929 319E=5730 319F=4EBA 31A0= 3200=28+1100+29
    3201=28+1102+29 3202=28+1103+29 3203=28+1105+29 3204=28+1106+29 3205=28+1107+29
    3206=28+1109+29 3207=28+110B+29 3208=28+110C+29 3209=28+110E+29 320A=28+110F+29
    320B=28+1110+29 320C=28+1111+29 320D=28+1112+29 320E=28+AC00+29 320F=28+B098+29
    3210=28+B2E4+29 3211=28+B77C+29 3212=28+B9C8+29 3213=28+BC14+29 3214=28+C0AC+29
    3215=28+C544+29 3216=28+C790+29 3217=28+CC28+29 3218=28+CE74+29 3219=28+D0C0+29
    321A=28+D30C+29 321B=28+D558+29 321C=28+C8FC+29 321D=28+C624+C804+29 321E=28+C624+D6C4+29
    321F= 3220=28+4E00+29 3221=28+4E8C+29 3222=28+4E09+29 3223=28+56DB+29 3224=28+4E94+29
    3225=28+516D+29 3226=28+4E03+29 3227=28+516B+29 3228=28+4E5D+29 3229=28+5341+29
    322A=28+6708+29 322B=28+706B+29 322C=28+6C34+29 322D=28+6728+29 322E=28+91D1+29
    322F=28+571F+29 3230=28+65E5+29 3231=28+682A+29 3232=28+6709+29 3233=28+793E+29
    3234=28+540D+29 3235=28+7279+29 3236=28+8CA1+29 3237=28+795D+29 3238=28+52B4+29
    3239=28+4EE3+29 323A=28+547C+29 323B=28+5B66+29 323C=28+76E3+29 323D=28+4F01+29
    323E=28+8CC7+29 323F=28+5354+29 3240=28+796D+29 3241=28+4F11+29 3242=28+81EA+29
    3243=28+81F3+29 3244=554F 3245=5E7C 3246=6587 3247=7B8F 3248= 3250=70+74+65 3251=32+31
    3252=32+32 3253=32+33 3254=32+34 3255=32+35 3256=32+36 3257=32+37 3258=32+38 3259=32+39
    325A=33+30 325B=33+31 325C=33+32 325D=33+33 325E=33+34 325F=33+35 3260=1100 3261=1102
    3263=1105 3266=1109 3267=110B 3269=110E 326E=AC00 326F=B098 3270=B2E4 3271=B77C 3272=B9C8
    3273=BC14 3274=C0AC 3275=C544 3276=C790 3277=CC28 3278=CE74 3279=D0C0 327A=D30C 327B=D558
    327C=CC38+ACE0 327D=C8FC+C758 327E=C6B0 327F= 3280=4E00 3281=4E8C 3282=4E09 3283=56DB
    3284=4E94 3285=516D 3286=4E03 3287=516B 3288=4E5D 3289=5341 328A=6708 328B=706B 328C=6C34
    328D=6728 328E=91D1 328F=571F 3290=65E5 3291=682A 3292=6709 3293=793E 3294=540D 3295=7279
    3296=8CA1 3297=795D 3298=52B4 3299=79D8 329A=7537 329B=5973 329C=9069 329D=512A 329E=5370
    329F=6CE8 32A0=9805 32A1=4F11 32A2=5199 32A3=6B63 32A4=4E0A 32A5=4E2D 32A6=4E0B 32A7=5DE6
    32A8=53F3 32A9=533B 32AA=5B97 32AB=5B66 32AC=76E3 32AD=4F01 32AE=8CC7 32AF=5354 32B0=591C
    32B1=33+36 32B2=33+37 32B3=33+38 32B4=33+39 32B5=34+30 32B6=34+31 32B7=34+32 32B8=34+33
    32B9=34+34 32BA=34+35 32BB=34+36 32BC=34+37 32BD=34+38 32BE=34+39 32BF=35+30 32C0=31+6708
    32C1=32+6708 32C2=33+6708 32C3=34+6708 32C4=35+6708 32C5=36+6708 32C6=37+6708 32C7=38+6708
    32C8=39+6708 32C9=31+30+6708 32CA=31+31+6708 32CB=31+32+6708 32CC=68+67 32CD=65+72+67
    32CE=65+76 32CF=6C+74+64 32D0=30A2 32D1=30A4 32D2=30A6 32D3=30A8 32D4=30AA 32D6=30AD 32D7=30AF
    32D8=30B1 32D9=30B3 32DA=30B5 32DB=30B7 32DC=30B9 32DD=30BB 32DE=30BD 32DF=30BF 32E0=30C1
    32E1=30C4 32E2=30C6 32E3=30C8 32E4=30CA 32EA=30D2 32EB=30D5 32EC=30D8 32ED=30DB 32EE=30DE
    32F3=30E4 32F4=30E6 32F5=30E8 32FB=30EF 32FF=4EE4+548C 3300=30A2+30D1+30FC+30C8
    3301=30A2+30EB+30D5+30A1 3302=30A2+30F3+30DA+30A2 3303=30A2+30FC+30EB 3304=30A4+30CB+30F3+30B0
    3305=30A4+30F3+30C1 3306=30A6+30A9+30F3 3307=30A8+30B9+30AF+30FC+30C9 3308=30A8+30FC+30AB+30FC
    3309=30AA+30F3+30B9 330A=30AA+30FC+30E0 330B=30AB+30A4+30EA 330C=30AB+30E9+30C3+30C8
    330D=30AB+30ED+30EA+30FC 330E=30AC+30ED+30F3 330F=30AC+30F3+30DE 3310=30AE+30AC
    3311=30AE+30CB+30FC 3312=30AD+30E5+30EA+30FC 3313=30AE+30EB+30C0+30FC 3314=30AD+30ED
    3315=30AD+30ED+30B0+30E9+30E0 3316=30AD+30ED+30E1+30FC+30C8+30EB 3317=30AD+30ED+30EF+30C3+30C8
    3318=30B0+30E9+30E0 3319=30B0+30E9+30E0+30C8+30F3 331A=30AF+30EB+30BC+30A4+30ED
    331B=30AF+30ED+30FC+30CD 331C=30B1+30FC+30B9 331D=30B3+30EB+30CA 331E=30B3+30FC+30DD
    331F=30B5+30A4+30AF+30EB 3320=30B5+30F3+30C1+30FC+30E0 3321=30B7+30EA+30F3+30B0
    3322=30BB+30F3+30C1 3323=30BB+30F3+30C8 3324=30C0+30FC+30B9 3325=30C7+30B7 3326=30C9+30EB
    3327=30C8+30F3 3328=30CA+30CE 3329=30CE+30C3+30C8 332A=30CF+30A4+30C4
    332B=30D1+30FC+30BB+30F3+30C8 332C=30D1+30FC+30C4 332D=30D0+30FC+30EC+30EB
    332E=30D4+30A2+30B9+30C8+30EB 332F=30D4+30AF+30EB 3330=30D4+30B3 3331=30D3+30EB
    3332=30D5+30A1+30E9+30C3+30C9 3333=30D5+30A3+30FC+30C8 3334=30D6+30C3+30B7+30A7+30EB
    3335=30D5+30E9+30F3 3336=30D8+30AF+30BF+30FC+30EB 3337=30DA+30BD 3338=30DA+30CB+30D2
    3339=30D8+30EB+30C4 333A=30DA+30F3+30B9 333B=30DA+30FC+30B8 333C=30D9+30FC+30BF
    333D=30DD+30A4+30F3+30C8 333E=30DC+30EB+30C8 333F=30DB+30F3 3340=30DD+30F3+30C9
    3341=30DB+30FC+30EB 3342=30DB+30FC+30F3 3343=30DE+30A4+30AF+30ED 3344=30DE+30A4+30EB
    3345=30DE+30C3+30CF 3346=30DE+30EB+30AF 3347=30DE+30F3+30B7+30E7+30F3 3348=30DF+30AF+30ED+30F3
    3349=30DF+30EA 334A=30DF+30EA+30D0+30FC+30EB 334B=30E1+30AC 334C=30E1+30AC+30C8+30F3
    334D=30E1+30FC+30C8+30EB 334E=30E4+30FC+30C9 334F=30E4+30FC+30EB 3350=30E6+30A2+30F3
    3351=30EA+30C3+30C8+30EB 3352=30EA+30E9 3353=30EB+30D4+30FC 3354=30EB+30FC+30D6+30EB
    3355=30EC+30E0 3356=30EC+30F3+30C8+30B2+30F3 3357=30EF+30C3+30C8 3358=30+70B9 3359=31+70B9
    335A=32+70B9 335B=33+70B9 335C=34+70B9 335D=35+70B9 335E=36+70B9 335F=37+70B9 3360=38+70B9
    3361=39+70B9 3362=31+30+70B9 3363=31+31+70B9 3364=31+32+70B9 3365=31+33+70B9 3366=31+34+70B9
    3367=31+35+70B9 3368=31+36+70B9 3369=31+37+70B9 336A=31+38+70B9 336B=31+39+70B9
    336C=32+30+70B9 336D=32+31+70B9 336E=32+32+70B9 336F=32+33+70B9 3370=32+34+70B9 3371=68+70+61
    3372=64+61 3373=61+75 3374=62+61+72 3375=6F+76 3376=70+63 3377=64+6D 3378=64+6D+32
    3379=64+6D+33 337A=69+75 337B=5E73+6210 337C=662D+548C 337D=5927+6B63 337E=660E+6CBB
    337F=682A+5F0F+4F1A+793E 3380=70+61 3381=6E+61 3382=3BC+61 3383=6D+61 3384=6B+61 3385=6B+62
    3386=6D+62 3387=67+62 3388=63+61+6C 3389=6B+63+61+6C 338A=70+66 338B=6E+66 338C=3BC+66
    338D=3BC+67 338E=6D+67 338F=6B+67 3390=68+7A 3391=6B+68+7A 3392=6D+68+7A 3393=67+68+7A
    3394=74+68+7A 3395=3BC+6C 3396=6D+6C 3397=64+6C 3398=6B+6C 3399=66+6D 339A=6E+6D 339B=3BC+6D
    339C=6D+6D 339D=63+6D 339E=6B+6D 339F=6D+6D+32 33A0=63+6D+32 33A1=6D+32 33A2=6B+6D+32
    33A3=6D+6D+33 33A4=63+6D+33 33A5=6D+33 33A6=6B+6D+33 33A7=6D+2215+73 33A8=6D+2215+73+32
    33A9=70+61 33AA=6B+70+61 33AB=6D+70+61 33AC=67+70+61 33AD=72+61+64 33AE=72+61+64+2215+73
    33AF=72+61+64+2215+73+32 33B0=70+73 33B1=6E+73 33B2=3BC+73 33B3=6D+73 33B4=70+76 33B5=6E+76
    33B6=3BC+76 33B7=6D+76 33B8=6B+76 33B9=6D+76 33BA=70+77 33BB=6E+77 33BC=3BC+77 33BD=6D+77
    33BE=6B+77 33BF=6D+77 33C0=6B+3C9 33C1=6D+3C9 33C2=61+2E+6D+2E 33C3=62+71 33C4=63+63
    33C5=63+64 33C6=63+2215+6B+67 33C7=63+6F+2E 33C8=64+62 33C9=67+79 33CA=68+61 33CB=68+70
    33CC=69+6E 33CD=6B+6B 33CE=6B+6D 33CF=6B+74 33D0=6C+6D 33D1=6C+6E 33D2=6C+6F+67 33D3=6C+78
    33D4=6D+62 33D5=6D+69+6C 33D6=6D+6F+6C 33D7=70+68 33D8=70+2E+6D+2E 33D9=70+70+6D 33DA=70+72
    33DB=73+72 33DC=73+76 33DD=77+62 33DE=76+2215+6D 33DF=61+2215+6D 33E0=31+65E5 33E1=32+65E5
    33E2=33+65E5 33E3=34+65E5 33E4=35+65E5 33E5=36+65E5 33E6=37+65E5 33E7=38+65E5 33E8=39+65E5
    33E9=31+30+65E5 33EA=31+31+65E5 33EB=31+32+65E5 33EC=31+33+65E5 33ED=31+34+65E5
    33EE=31+35+65E5 33EF=31+36+65E5 33F0=31+37+65E5 33F1=31+38+65E5 33F2=31+39+65E5
    33F3=32+30+65E5 33F4=32+31+65E5 33F5=32+32+65E5 33F6=32+33+65E5 33F7=32+34+65E5
    33F8=32+35+65E5 33F9=32+36+65E5 33FA=32+37+65E5 33FB=32+38+65E5 33FC=32+39+65E5
    33FD=33+30+65E5 33FE=33+31+65E5 33FF=67+61+6C 3400= A640=A641 A641= A642=A643 A643= A644=A645
    A645= A646=A647 A647= A648=A649 A649= A64A=A64B A64B= A64C=A64D A64D= A64E=A64F A64F=
    A650=A651 A651= A652=A653 A653= A654=A655 A655= A656=A657 A657= A658=A659 A659= A65A=A65B
    A65B= A65C=A65D A65D= A65E=A65F A65F= A660=A661 A661= A662=A663 A663= A664=A665 A665=
    A666=A667 A667= A668=A669 A669= A66A=A66B A66B= A66C=A66D A66D= A680=A681 A681= A682=A683
    A683= A684=A685 A685= A686=A687 A687= A688=A689 A689= A68A=A68B A68B= A68C=A68D A68D=
    A68E=A68F A68F= A690=A691 A691= A692=A693 A693= A694=A695 A695= A696=A697 A697= A698=A699
    A699= A69A=A69B A69B= A69C=44A A69D=44C A69E= A722=A723 A723= A724=A725 A725= A726=A727 A727=
    A728=A729 A729= A72A=A72B A72B= A72C=A72D A72D= A72E=A72F A72F= A732=A733 A733= A734=A735
    A735= A736=A737 A737= A738=A739 A739= A73A=A73B A73B= A73C=A73D A73D= A73E=A73F A73F=
    A740=A741 A741= A742=A743 A743= A744=A745 A745= A746=A747 A747= A748=A749 A749= A74A=A74B
    A74B= A74C=A74D A74D= A74E=A74F A74F= A750=A751 A751= A752=A753 A753= A754=A755 A755=
    A756=A757 A757= A758=A759 A759= A75A=A75B A75B= A75C=A75D A75D= A75E=A75F A75F= A760=A761
    A761= A762=A763 A763= A764=A765 A765= A766=A767 A767= A768=A769 A769= A76A=A76B A76B=
    A76C=A76D A76D= A76E=A76F A76F= A770=A76F A771= A779=A77A A77A= A77B=A77C A77C= A77D=1D79
    A77E=A77F A77F= A780=A781 A781= A782=A783 A783= A784=A785 A785= A786=A787 A787= A78B=A78C
    A78C= A78D=265 A78E= A790=A791 A791= A792=A793 A793= A796=A797 A797= A798=A799 A799= A79A=A79B
    A79B= A79C=A79D A79D= A79E=A79F A79F= A7A0=A7A1 A7A1= A7A2=A7A3 A7A3= A7A4=A7A5 A7A5=
    A7A6=A7A7 A7A7= A7A8=A7A9 A7A9= A7AA=266 A7AB=25C A7AC=261 A7AD=26C A7AE=26A A7AF= A7B0=29E
    A7B1=287 A7B2=29D A7B3=AB53 A7B4=A7B5 A7B5= A7B6=A7B7 A7B7= A7B8=A7B9 A7B9= A7BA=A7BB A7BB=
    A7BC=A7BD A7BD= A7BE=A7BF A7BF= A7C0=A7C1 A7C1= A7C2=A7C3 A7C3= A7C4=A794 A7C5=282 A7C6=1D8E
    A7C7=A7C8 A7C8= A7C9=A7CA A7CA= A7D0=A7D1 A7D1= A7D6=A7D7 A7D7= A7D8=A7D9 A7D9= A7F2=63
    A7F3=66 A7F4=71 A7F5=A7F6 A7F6= A7F8=127 A7F9=153 A7FA= AB5C=A727 AB5D=AB37 AB5E=26B AB5F=AB52
    AB60= AB69=28D AB6A= AB70=13A0 ABC0= F900=8C48 F901=66F4 F902=8ECA F903=8CC8 F904=6ED1
    F905=4E32 F906=53E5 F907=9F9C F908=9F9C F909=5951 F90A=91D1 F90B=5587 F90C=5948 F90D=61F6
    F90E=7669 F90F=7F85 F910=863F F911=87BA F912=88F8 F913=908F F914=6A02 F915=6D1B F916=70D9
    F917=73DE F918=843D F919=916A F91A=99F1 F91B=4E82 F91C=5375 F91D=6B04 F91E=721B F91F=862D
    F920=9E1E F921=5D50 F922=6FEB F923=85CD F924=8964 F925=62C9 F926=81D8 F927=881F F928=5ECA
    F929=6717 F92A=6D6A F92B=72FC F92C=90CE F92D=4F86 F92E=51B7 F92F=52DE F930=64C4 F931=6AD3
    F932=7210 F933=76E7 F934=8001 F935=8606 F936=865C F937=8DEF F938=9732 F939=9B6F F93A=9DFA
    F93B=788C F93C=797F F93D=7DA0 F93E=83C9 F93F=9304 F940=9E7F F941=8AD6 F942=58DF F943=5F04
    F944=7C60 F945=807E F946=7262 F947=78CA F948=8CC2 F949=96F7 F94A=58D8 F94B=5C62 F94C=6A13
    F94D=6DDA F94E=6F0F F94F=7D2F F950=7E37 F951=964B F952=52D2 F953=808B F954=51DC F955=51CC
    F956=7A1C F957=7DBE F958=83F1 F959=9675 F95A=8B80 F95B=62CF F95C=6A02 F95D=8AFE F95E=4E39
    F95F=5BE7 F960=6012 F961=7387 F962=7570 F963=5317 F964=78FB F965=4FBF F966=5FA9 F967=4E0D
    F968=6CCC F969=6578 F96A=7D22 F96B=53C3 F96C=585E F96D=7701 F96E=8449 F96F=8AAA F970=6BBA
    F971=8FB0 F972=6C88 F973=62FE F974=82E5 F975=63A0 F976=7565 F977=4EAE F978=5169 F979=51C9
    F97A=6881 F97B=7CE7 F97C=826F F97D=8AD2 F97E=91CF F97F=52F5 F980=5442 F981=5973 F982=5EEC
    F983=65C5 F984=6FFE F985=792A F986=95AD F987=9A6A F988=9E97 F989=9ECE F98A=529B F98B=66C6
    F98C=6B77 F98D=8F62 F98E=5E74 F98F=6190 F990=6200 F991=649A F992=6F23 F993=7149 F994=7489
    F995=79CA F996=7DF4 F997=806F F998=8F26 F999=84EE F99A=9023 F99B=934A F99C=5217 F99D=52A3
    F99E=54BD F99F=70C8 F9A0=88C2 F9A1=8AAA F9A2=5EC9 F9A3=5FF5 F9A4=637B F9A5=6BAE F9A6=7C3E
    F9A7=7375 F9A8=4EE4 F9A9=56F9 F9AA=5BE7 F9AB=5DBA F9AC=601C F9AD=73B2 F9AE=7469 F9AF=7F9A
    F9B0=8046 F9B1=9234 F9B2=96F6 F9B3=9748 F9B4=9818 F9B5=4F8B F9B6=79AE F9B7=91B4 F9B8=96B8
    F9B9=60E1 F9BA=4E86 F9BB=50DA F9BC=5BEE F9BD=5C3F F9BE=6599 F9BF=6A02 F9C0=71CE F9C1=7642
    F9C2=84FC F9C3=907C F9C4=9F8D F9C5=6688 F9C6=962E F9C7=5289 F9C8=677B F9C9=67F3 F9CA=6D41
    F9CB=6E9C F9CC=7409 F9CD=7559 F9CE=786B F9CF=7D10 F9D0=985E F9D1=516D F9D2=622E F9D3=9678
    F9D4=502B F9D5=5D19 F9D6=6DEA F9D7=8F2A F9D8=5F8B F9D9=6144 F9DA=6817 F9DB=7387 F9DC=9686
    F9DD=5229 F9DE=540F F9DF=5C65 F9E0=6613 F9E1=674E F9E2=68A8 F9E3=6CE5 F9E4=7406 F9E5=75E2
    F9E6=7F79 F9E7=88CF F9E8=88E1 F9E9=91CC F9EA=96E2 F9EB=533F F9EC=6EBA F9ED=541D F9EE=71D0
    F9EF=7498 F9F0=85FA F9F1=96A3 F9F2=9C57 F9F3=9E9F F9F4=6797 F9F5=6DCB F9F6=81E8 F9F7=7ACB
    F9F8=7B20 F9F9=7C92 F9FA=72C0 F9FB=7099 F9FC=8B58 F9FD=4EC0 F9FE=8336 F9FF=523A FA00=5207
    FA01=5EA6 FA02=62D3 FA03=7CD6 FA04=5B85 FA05=6D1E FA06=66B4 FA07=8F3B FA08=884C FA09=964D
    FA0A=898B FA0B=5ED3 FA0C=5140 FA0D=55C0 FA0E= FA10=585A FA11= FA12=6674 FA13= FA15=51DE
    FA16=732A FA17=76CA FA18=793C FA19=795E FA1A=7965 FA1B=798F FA1C=9756 FA1D=7CBE FA1E=7FBD
    FA1F= FA20=8612 FA21= FA22=8AF8 FA23= FA25=9038 FA26=90FD FA27= FA2A=98EF FA2B=98FC FA2C=9928
    FA2D=9DB4 FA2E=90DE FA2F=96B7 FA30=4FAE FA31=50E7 FA32=514D FA33=52C9 FA34=52E4 FA35=5351
    FA36=559D FA37=5606 FA38=5668 FA39=5840 FA3A=58A8 FA3B=5C64 FA3C=5C6E FA3D=6094 FA3E=6168
    FA3F=618E FA40=61F2 FA41=654F FA42=65E2 FA43=6691 FA44=6885 FA45=6D77 FA46=6E1A FA47=6F22
    FA48=716E FA49=722B FA4A=7422 FA4B=7891 FA4C=793E FA4D=7949 FA4E=7948 FA4F=7950 FA50=7956
    FA51=795D FA52=798D FA54=7A40 FA55=7A81 FA56=7BC0 FA57=7DF4 FA58=7E09 FA59=7E41 FA5A=7F72
    FA5B=8005 FA5C=81ED FA5D=8279 FA5E=8279 FA5F=8457 FA60=8910 FA61=8996 FA62=8B01 FA63=8B39
    FA64=8CD3 FA65=8D08 FA66=8FB6 FA67=9038 FA68=96E3 FA69=97FF FA6A=983B FA6B=6075 FA6C=242EE
    FA6D=8218 FA6E= FA70=4E26 FA71=51B5 FA72=5168 FA73=4F80 FA74=5145 FA75=5180 FA76=52C7
    FA77=52FA FA78=559D FA79=5555 FA7A=5599 FA7B=55E2 FA7C=585A FA7D=58B3 FA7E=5944 FA7F=5954
    FA80=5A62 FA81=5B28 FA82=5ED2 FA83=5ED9 FA84=5F69 FA85=5FAD FA86=60D8 FA87=614E FA88=6108
    FA89=618E FA8A=6160 FA8B=61F2 FA8C=6234 FA8D=63C4 FA8E=641C FA8F=6452 FA90=6556 FA91=6674
    FA92=6717 FA93=671B FA94=6756 FA95=6B79 FA96=6BBA FA97=6D41 FA98=6EDB FA99=6ECB FA9A=6F22
    FA9B=701E FA9C=716E FA9D=77A7 FA9E=7235 FA9F=72AF FAA0=732A FAA1=7471 FAA2=7506 FAA3=753B
    FAA4=761D FAA5=761F FAA6=76CA FAA7=76DB FAA8=76F4 FAA9=774A FAAA=7740 FAAB=78CC FAAC=7AB1
    FAAD=7BC0 FAAE=7C7B FAAF=7D5B FAB0=7DF4 FAB1=7F3E FAB2=8005 FAB3=8352 FAB4=83EF FAB5=8779
    FAB6=8941 FAB7=8986 FAB8=8996 FAB9=8ABF FABA=8AF8 FABB=8ACB FABC=8B01 FABD=8AFE FABE=8AED
    FABF=8B39 FAC0=8B8A FAC1=8D08 FAC2=8F38 FAC3=9072 FAC4=9199 FAC5=9276 FAC6=967C FAC7=96E3
    FAC8=9756 FAC9=97DB FACA=97FF FACB=980B FACC=983B FACD=9B12 FACE=9F9C FACF=2284A FAD0=22844
    FAD1=233D5 FAD2=3B9D FAD3=4018 FAD4=4039 FAD5=25249 FAD6=25CD0 FAD7=27ED3 FAD8=9F43 FAD9=9F8E
    FADA= FB00=66+66 FB01=66+69 FB02=66+6C FB03=66+66+69 FB04=66+66+6C FB05=73+74 FB06=73+74 FB07=
    FB13=574+576 FB14=574+565 FB15=574+56B FB16=57E+576 FB17=574+56D FB18= FB1D=5D9+5B4 FB1E=
    FB1F=5F2+5B7 FB20=5E2 FB21=5D0 FB22=5D3 FB24=5DB FB27=5E8 FB28=5EA FB29=2B FB2A=5E9+5C1
    FB2B=5E9+5C2 FB2C=5E9+5BC+5C1 FB2D=5E9+5BC+5C2 FB2E=5D0+5B7 FB2F=5D0+5B8 FB30=5D0+5BC
    FB31=5D1+5BC FB32=5D2+5BC FB33=5D3+5BC FB34=5D4+5BC FB35=5D5+5BC FB36=5D6+5BC FB37=
    FB38=5D8+5BC FB39=5D9+5BC FB3A=5DA+5BC FB3B=5DB+5BC FB3C=5DC+5BC FB3D= FB3E=5DE+5BC FB3F=
    FB40=5E0+5BC FB41=5E1+5BC FB42= FB43=5E3+5BC FB44=5E4+5BC FB45= FB46=5E6+5BC FB47=5E7+5BC
    FB48=5E8+5BC FB49=5E9+5BC FB4A=5EA+5BC FB4B=5D5+5B9 FB4C=5D1+5BF FB4D=5DB+5BF FB4E=5E4+5BF
    FB4F=5D0+5DC FB50=671 FB51=671 FB52=67B FB53=67B FB54=67B FB55=67B FB56=67E FB57=67E FB58=67E
    FB59=67E FB5A=680 FB5B=680 FB5C=680 FB5D=680 FB5E=67A FB5F=67A FB60=67A FB61=67A FB62=67F
    FB63=67F FB64=67F FB65=67F FB66=679 FB67=679 FB68=679 FB69=679 FB6A=6A4 FB6B=6A4 FB6C=6A4
    FB6D=6A4 FB6E=6A6 FB6F=6A6 FB70=6A6 FB71=6A6 FB72=684 FB73=684 FB74=684 FB75=684 FB76=683
    FB77=683 FB78=683 FB79=683 FB7A=686 FB7B=686 FB7C=686 FB7D=686 FB7F=687 FB80=687 FB81=687
    FB82=68D FB83=68D FB84=68C FB85=68C FB86=68E FB87=68E FB88=688 FB89=688 FB8A=698 FB8B=698
    FB8C=691 FB8D=691 FB8E=6A9 FB8F=6A9 FB90=6A9 FB91=6A9 FB92=6AF FB93=6AF FB94=6AF FB95=6AF
    FB96=6B3 FB97=6B3 FB98=6B3 FB99=6B3 FB9A=6B1 FB9B=6B1 FB9C=6B1 FB9D=6B1 FB9E=6BA FB9F=6BA
    FBA1=6BB FBA2=6BB FBA3=6BB FBA4=6C0 FBA5=6C0 FBA7=6C1 FBA8=6C1 FBA9=6C1 FBAA=6BE FBAB=6BE
    FBAC=6BE FBAD=6BE FBAE=6D2 FBAF=6D2 FBB1=6D3 FBB2= FBD3=6AD FBD4=6AD FBD5=6AD FBD6=6AD
    FBD7=6C7 FBD8=6C7 FBD9=6C6 FBDA=6C6 FBDB=6C8 FBDC=6C8 FBDD=6C7+674 FBDE=6CB FBDF=6CB FBE0=6C5
    FBE1=6C5 FBE2=6C9 FBE3=6C9 FBE4=6D0 FBE5=6D0 FBE6=6D0 FBE7=6D0 FBE8=649 FBE9=649 FBEA=626+627
    FBEB=626+627 FBEC=626+6D5 FBED=626+6D5 FBEE=626+648 FBEF=626+648 FBF0=626+6C7 FBF1=626+6C7
    FBF2=626+6C6 FBF3=626+6C6 FBF4=626+6C8 FBF5=626+6C8 FBF6=626+6D0 FBF7=626+6D0 FBF8=626+6D0
    FBF9=626+649 FBFA=626+649 FBFB=626+649 FBFC=6CC FBFD=6CC FBFE=6CC FBFF=6CC FC00=626+62C
    FC01=626+62D FC02=626+645 FC03=626+649 FC04=626+64A FC05=628+62C FC06=628+62D FC07=628+62E
    FC08=628+645 FC09=628+649 FC0A=628+64A FC0B=62A+62C FC0C=62A+62D FC0D=62A+62E FC0E=62A+645
    FC0F=62A+649 FC10=62A+64A FC11=62B+62C FC12=62B+645 FC13=62B+649 FC14=62B+64A FC15=62C+62D
    FC16=62C+645 FC17=62D+62C FC18=62D+645 FC19=62E+62C FC1A=62E+62D FC1B=62E+645 FC1C=633+62C
    FC1D=633+62D FC1E=633+62E FC1F=633+645 FC20=635+62D FC21=635+645 FC22=636+62C FC23=636+62D
    FC24=636+62E FC25=636+645 FC26=637+62D FC27=637+645 FC28=638+645 FC29=639+62C FC2A=639+645
    FC2B=63A+62C FC2C=63A+645 FC2D=641+62C FC2E=641+62D FC2F=641+62E FC30=641+645 FC31=641+649
    FC32=641+64A FC33=642+62D FC34=642+645 FC35=642+649 FC36=642+64A FC37=643+627 FC38=643+62C
    FC39=643+62D FC3A=643+62E FC3B=643+644 FC3C=643+645 FC3D=643+649 FC3E=643+64A FC3F=644+62C
    FC40=644+62D FC41=644+62E FC42=644+645 FC43=644+649 FC44=644+64A FC45=645+62C FC46=645+62D
    FC47=645+62E FC48=645+645 FC49=645+649 FC4A=645+64A FC4B=646+62C FC4C=646+62D FC4D=646+62E
    FC4E=646+645 FC4F=646+649 FC50=646+64A FC51=647+62C FC52=647+645 FC53=647+649 FC54=647+64A
    FC55=64A+62C FC56=64A+62D FC57=64A+62E FC58=64A+645 FC59=64A+649 FC5A=64A+64A FC5B=630+670
    FC5C=631+670 FC5D=649+670 FC5E=20+64C+651 FC5F=20+64D+651 FC60=20+64E+651 FC61=20+64F+651
    FC62=20+650+651 FC63=20+651+670 FC64=626+631 FC65=626+632 FC66=626+645 FC67=626+646
    FC68=626+649 FC69=626+64A FC6A=628+631 FC6B=628+632 FC6C=628+645 FC6D=628+646 FC6E=628+649
    FC6F=628+64A FC70=62A+631 FC71=62A+632 FC72=62A+645 FC73=62A+646 FC74=62A+649 FC75=62A+64A
    FC76=62B+631 FC77=62B+632 FC78=62B+645 FC79=62B+646 FC7A=62B+649 FC7B=62B+64A FC7C=641+649
    FC7D=641+64A FC7E=642+649 FC7F=642+64A FC80=643+627 FC81=643+644 FC82=643+645 FC83=643+649
    FC84=643+64A FC85=644+645 FC86=644+649 FC87=644+64A FC88=645+627 FC89=645+645 FC8A=646+631
    FC8B=646+632 FC8C=646+645 FC8D=646+646 FC8E=646+649 FC8F=646+64A FC90=649+670 FC91=64A+631
    FC92=64A+632 FC93=64A+645 FC94=64A+646 FC95=64A+649 FC96=64A+64A FC97=626+62C FC98=626+62D
    FC99=626+62E FC9A=626+645 FC9B=626+647 FC9C=628+62C FC9D=628+62D FC9E=628+62E FC9F=628+645
    FCA0=628+647 FCA1=62A+62C FCA2=62A+62D FCA3=62A+62E FCA4=62A+645 FCA5=62A+647 FCA6=62B+645
    FCA7=62C+62D FCA8=62C+645 FCA9=62D+62C FCAA=62D+645 FCAB=62E+62C FCAC=62E+645 FCAD=633+62C
    FCAE=633+62D FCAF=633+62E FCB0=633+645 FCB1=635+62D FCB2=635+62E FCB3=635+645 FCB4=636+62C
    FCB5=636+62D FCB6=636+62E FCB7=636+645 FCB8=637+62D FCB9=638+645 FCBA=639+62C FCBB=639+645
    FCBC=63A+62C FCBD=63A+645 FCBE=641+62C FCBF=641+62D FCC0=641+62E FCC1=641+645 FCC2=642+62D
    FCC3=642+645 FCC4=643+62C FCC5=643+62D FCC6=643+62E FCC7=643+644 FCC8=643+645 FCC9=644+62C
    FCCA=644+62D FCCB=644+62E FCCC=644+645 FCCD=644+647 FCCE=645+62C FCCF=645+62D FCD0=645+62E
    FCD1=645+645 FCD2=646+62C FCD3=646+62D FCD4=646+62E FCD5=646+645 FCD6=646+647 FCD7=647+62C
    FCD8=647+645 FCD9=647+670 FCDA=64A+62C FCDB=64A+62D FCDC=64A+62E FCDD=64A+645 FCDE=64A+647
    FCDF=626+645 FCE0=626+647 FCE1=628+645 FCE2=628+647 FCE3=62A+645 FCE4=62A+647 FCE5=62B+645
    FCE6=62B+647 FCE7=633+645 FCE8=633+647 FCE9=634+645 FCEA=634+647 FCEB=643+644 FCEC=643+645
    FCED=644+645 FCEE=646+645 FCEF=646+647 FCF0=64A+645 FCF1=64A+647 FCF2=640+64E+651
    FCF3=640+64F+651 FCF4=640+650+651 FCF5=637+649 FCF6=637+64A FCF7=639+649 FCF8=639+64A
    FCF9=63A+649 FCFA=63A+64A FCFB=633+649 FCFC=633+64A FCFD=634+649 FCFE=634+64A FCFF=62D+649
    FD00=62D+64A FD01=62C+649 FD02=62C+64A FD03=62E+649 FD04=62E+64A FD05=635+649 FD06=635+64A
    FD07=636+649 FD08=636+64A FD09=634+62C FD0A=634+62D FD0B=634+62E FD0C=634+645 FD0D=634+631
    FD0E=633+631 FD0F=635+631 FD10=636+631 FD11=637+649 FD12=637+64A FD13=639+649 FD14=639+64A
    FD15=63A+649 FD16=63A+64A FD17=633+649 FD18=633+64A FD19=634+649 FD1A=634+64A FD1B=62D+649
    FD1C=62D+64A FD1D=62C+649 FD1E=62C+64A FD1F=62E+649 FD20=62E+64A FD21=635+649 FD22=635+64A
    FD23=636+649 FD24=636+64A FD25=634+62C FD26=634+62D FD27=634+62E FD28=634+645 FD29=634+631
    FD2A=633+631 FD2B=635+631 FD2C=636+631 FD2D=634+62C FD2E=634+62D FD2F=634+62E FD30=634+645
    FD31=633+647 FD32=634+647 FD33=637+645 FD34=633+62C FD35=633+62D FD36=633+62E FD37=634+62C
    FD38=634+62D FD39=634+62E FD3A=637+645 FD3B=638+645 FD3C=627+64B FD3D=627+64B FD3E=
    FD50=62A+62C+645 FD51=62A+62D+62C FD52=62A+62D+62C FD53=62A+62D+645 FD54=62A+62E+645
    FD55=62A+645+62C FD56=62A+645+62D FD57=62A+645+62E FD58=62C+645+62D FD59=62C+645+62D
    FD5A=62D+645+64A FD5B=62D+645+649 FD5C=633+62D+62C FD5D=633+62C+62D FD5E=633+62C+649
    FD5F=633+645+62D FD60=633+645+62D FD61=633+645+62C FD62=633+645+645 FD63=633+645+645
    FD64=635+62D+62D FD65=635+62D+62D FD66=635+645+645 FD67=634+62D+645 FD68=634+62D+645
    FD69=634+62C+64A FD6A=634+645+62E FD6B=634+645+62E FD6C=634+645+645 FD6D=634+645+645
    FD6E=636+62D+649 FD6F=636+62E+645 FD70=636+62E+645 FD71=637+645+62D FD72=637+645+62D
    FD73=637+645+645 FD74=637+645+64A FD75=639+62C+645 FD76=639+645+645 FD77=639+645+645
    FD78=639+645+649 FD79=63A+645+645 FD7A=63A+645+64A FD7B=63A+645+649 FD7C=641+62E+645
    FD7D=641+62E+645 FD7E=642+645+62D FD7F=642+645+645 FD80=644+62D+645 FD81=644+62D+64A
    FD82=644+62D+649 FD83=644+62C+62C FD84=644+62C+62C FD85=644+62E+645 FD86=644+62E+645
    FD87=644+645+62D FD88=644+645+62D FD89=645+62D+62C FD8A=645+62D+645 FD8B=645+62D+64A
    FD8C=645+62C+62D FD8D=645+62C+645 FD8E=645+62E+62C FD8F=645+62E+645 FD90= FD92=645+62C+62E
    FD93=647+645+62C FD94=647+645+645 FD95=646+62D+645 FD96=646+62D+649 FD97=646+62C+645
    FD98=646+62C+645 FD99=646+62C+649 FD9A=646+645+64A FD9B=646+645+649 FD9C=64A+645+645
    FD9D=64A+645+645 FD9E=628+62E+64A FD9F=62A+62C+64A FDA0=62A+62C+649 FDA1=62A+62E+64A
    FDA2=62A+62E+649 FDA3=62A+645+64A FDA4=62A+645+649 FDA5=62C+645+64A FDA6=62C+62D+649
    FDA7=62C+645+649 FDA8=633+62E+649 FDA9=635+62D+64A FDAA=634+62D+64A FDAB=636+62D+64A
    FDAC=644+62C+64A FDAD=644+645+64A FDAE=64A+62D+64A FDAF=64A+62C+64A FDB0=64A+645+64A
    FDB1=645+645+64A FDB2=642+645+64A FDB3=646+62D+64A FDB4=642+645+62D FDB5=644+62D+645
    FDB6=639+645+64A FDB7=643+645+64A FDB8=646+62C+62D FDB9=645+62E+64A FDBA=644+62C+645
    FDBB=643+645+645 FDBC=644+62C+645 FDBD=646+62C+62D FDBE=62C+62D+64A FDBF=62D+62C+64A
    FDC0=645+62C+64A FDC1=641+645+64A FDC2=628+62D+64A FDC3=643+645+645 FDC4=639+62C+645
    FDC5=635+645+645 FDC6=633+62E+64A FDC7=646+62C+64A FDC8= FDF0=635+644+6D2 FDF1=642+644+6D2
    FDF2=627+644+644+647 FDF3=627+643+628+631 FDF4=645+62D+645+62F FDF5=635+644+639+645
    FDF6=631+633+648+644 FDF7=639+644+64A+647 FDF8=648+633+644+645 FDF9=635+644+649
    FDFA=635+644+649+20+627+644+644+647+20+639+644+64A+647+20+648+633+644+645
    FDFB=62C+644+20+62C+644+627+644+647 FDFC=631+6CC+627+644 FDFD= FE00=- FE01=- FE02=- FE03=-
    FE04=- FE05=- FE06=- FE07=- FE08=- FE09=- FE0A=- FE0B=- FE0C=- FE0D=- FE0E=- FE0F=- FE10=2C
    FE11=3001 FE13=3A FE15=21 FE16=3F FE17=3016 FE19=2E+2E+2E FE1A= FE30=2E+2E FE31=2014 FE32=2013
    FE33=5F FE34=5F FE35=28 FE37=7B FE38=7D FE39=3014 FE3B=3010 FE3D=300A FE3F=3008 FE41=300C
    FE45= FE47=5B FE48=5D FE49=20+305 FE4A=20+305 FE4B=20+305 FE4C=20+305 FE4D=5F FE4E=5F FE4F=5F
    FE50=2C FE51=3001 FE52=2E FE53= FE54=3B FE55=3A FE56=3F FE57=21 FE58=2014 FE59=28 FE5B=7B
    FE5C=7D FE5D=3014 FE5F=23 FE60=26 FE61=2A FE63=2D FE64=3C FE65=3E FE66=3D FE67= FE68=5C
    FE69=24 FE6B=40 FE6C= FE70=20+64B FE71=640+64B FE72=20+64C FE73= FE74=20+64D FE75= FE76=20+64E
    FE77=640+64E FE78=20+64F FE79=640+64F FE7A=20+650 FE7B=640+650 FE7C=20+651 FE7D=640+651
    FE7E=20+652 FE7F=640+652 FE80=621 FE82=622 FE84=623 FE86=624 FE88=625 FE8A=626 FE8B=626
    FE8C=626 FE8E=627 FE90=628 FE91=628 FE92=628 FE94=629 FE96=62A FE97=62A FE98=62A FE9A=62B
    FE9B=62B FE9C=62B FE9E=62C FE9F=62C FEA0=62C FEA2=62D FEA3=62D FEA4=62D FEA6=62E FEA7=62E
    FEA8=62E FEAA=62F FEAC=630 FEAE=631 FEB0=632 FEB2=633 FEB3=633 FEB4=633 FEB6=634 FEB7=634
    FEB8=634 FEBA=635 FEBB=635 FEBC=635 FEBE=636 FEBF=636 FEC0=636 FEC2=637 FEC3=637 FEC4=637
    FEC6=638 FEC7=638 FEC8=638 FECA=639 FECB=639 FECC=639 FECE=63A FECF=63A FED0=63A FED1=641
    FED2=641 FED3=641 FED4=641 FED6=642 FED7=642 FED8=642 FEDA=643 FEDB=643 FEDC=643 FEDE=644
    FEDF=644 FEE0=644 FEE2=645 FEE3=645 FEE4=645 FEE6=646 FEE7=646 FEE8=646 FEEA=647 FEEB=647
    FEEC=647 FEEE=648 FEF0=649 FEF2=64A FEF3=64A FEF4=64A FEF5=644+622 FEF6=644+622 FEF7=644+623
    FEF8=644+623 FEF9=644+625 FEFA=644+625 FEFB=644+627 FEFC=644+627 FEFD= FEFF=- FF00= FF01=21
    FF21=61 FF3B=5B FF5F=2985 FF61=3002 FF62=300C FF64=3001 FF65=30FB FF66=30F2 FF67=30A1
    FF68=30A3 FF69=30A5 FF6A=30A7 FF6B=30A9 FF6C=30E3 FF6D=30E5 FF6E=30E7 FF6F=30C3 FF70=30FC
    FF71=30A2 FF72=30A4 FF73=30A6 FF74=30A8 FF75=30AA FF77=30AD FF78=30AF FF79=30B1 FF7A=30B3
    FF7B=30B5 FF7C=30B7 FF7D=30B9 FF7E=30BB FF7F=30BD FF80=30BF FF81=30C1 FF82=30C4 FF83=30C6
    FF84=30C8 FF85=30CA FF8B=30D2 FF8C=30D5 FF8D=30D8 FF8E=30DB FF8F=30DE FF94=30E4 FF95=30E6
    FF96=30E8 FF9C=30EF FF9D=30F3 FF9E=3099 FFA0=- FFA1=1100 FFA3=11AA FFA4=1102 FFA5=11AC
    FFA7=1103 FFAA=11B0 FFB0=111A FFB1=1106 FFB4=1121 FFB5=1109 FFBF= FFC2=1161 FFC8= FFCA=1167
    FFD0= FFD2=116D FFD8= FFDA=1173 FFDD= FFE0=A2 FFE2=AC FFE3=20+304 FFE4=A6 FFE5=A5 FFE6=20A9
    FFE7= FFE8=2502 FFE9=2190 FFED=25A0 FFEE=25CB FFEF= FFF0=- FFF1=- FFF2=- FFF3=- FFF4=- FFF5=-
    FFF6=- FFF7=- FFF8=- FFF9= 10400=10428 10428= 104B0=104D8 104D4= 10570=10597 1057B=
    1057C=105A3 1058B= 1058C=105B3 10593= 10594=105BB 10596= 10781=2D0 10783=E6 10784=299
    10785=253 10786= 10787=2A3 10788=AB66 10789=2A5 1078A=2A4 1078B=256 1078D=1D91 1078E=258
    1078F=25E 10790=2A9 10791=264 10792=262 10793=260 10794=29B 10795=127 10796=29C 10797=267
    10798=284 10799=2AA 1079B=26C 1079C=1DF04 1079D=A78E 1079E=26E 1079F=1DF05 107A0=28E
    107A1=1DF06 107A2=F8 107A3=276 107A5=71 107A6=27A 107A7=1DF08 107A8=27D 107AA=280 107AB=2A8
    107AC=2A6 107AD=AB67 107AE=2A7 107AF=288 107B0=2C71 107B1= 107B2=28F 107B3=2A1 107B5=298
    107B6=1C0 107B9=1DF0A 107BA=1DF1E 107BB= 10C80=10CC0 10CB3= 118A0=118C0 118C0= 16E40=16E60
    16E60= 1BCA0=- 1BCA1=- 1BCA2=- 1BCA3=- 1BCA4= 1D15E=1D157+1D165 1D15F=1D158+1D165
    1D160=1D158+1D165+1D16E 1D161=1D158+1D165+1D16F 1D162=1D158+1D165+1D170
    1D163=1D158+1D165+1D171 1D164=1D158+1D165+1D172 1D165= 1D173=- 1D174=- 1D175=- 1D176=- 1D177=-
    1D178=- 1D179=- 1D17A=- 1D17B= 1D1BB=1D1B9+1D165 1D1BC=1D1BA+1D165 1D1BD=1D1B9+1D165+1D16E
    1D1BE=1D1BA+1D165+1D16E 1D1BF=1D1B9+1D165+1D16F 1D1C0=1D1BA+1D165+1D16F 1D1C1= 1D400=61
    1D41A=61 1D434=61 1D44E=61 1D455= 1D456=69 1D468=61 1D482=61 1D49C=61 1D49D= 1D49E=63 1D4A0=
    1D4A2=67 1D4A3= 1D4A5=6A 1D4A7= 1D4A9=6E 1D4AD= 1D4AE=73 1D4B6=61 1D4BA= 1D4BB=66 1D4BC=
    1D4BD=68 1D4C4= 1D4C5=70 1D4D0=61 1D4EA=61 1D504=61 1D506= 1D507=64 1D50B= 1D50D=6A 1D515=
    1D516=73 1D51D= 1D51E=61 1D538=61 1D53A= 1D53B=64 1D53F= 1D540=69 1D545= 1D546=6F 1D547=
    1D54A=73 1D551= 1D552=61 1D56C=61 1D586=61 1D5A0=61 1D5BA=61 1D5D4=61 1D5EE=61 1D608=61
    1D622=61 1D63C=61 1D656=61 1D670=61 1D68A=61 1D6A4=131 1D6A5=237 1D6A6= 1D6A8=3B1 1D6B9=3B8
    1D6BA=3C3 1D6C1=2207 1D6C2=3B1 1D6D3=3C3 1D6D4=3C3 1D6DB=2202 1D6DC=3B5 1D6DD=3B8 1D6DE=3BA
    1D6DF=3C6 1D6E0=3C1 1D6E1=3C0 1D6E2=3B1 1D6F3=3B8 1D6F4=3C3 1D6FB=2207 1D6FC=3B1 1D70D=3C3
    1D70E=3C3 1D715=2202 1D716=3B5 1D717=3B8 1D718=3BA 1D719=3C6 1D71A=3C1 1D71B=3C0 1D71C=3B1
    1D72D=3B8 1D72E=3C3 1D735=2207 1D736=3B1 1D747=3C3 1D748=3C3 1D74F=2202 1D750=3B5 1D751=3B8
    1D752=3BA 1D753=3C6 1D754=3C1 1D755=3C0 1D756=3B1 1D767=3B8 1D768=3C3 1D76F=2207 1D770=3B1
    1D781=3C3 1D782=3C3 1D789=2202 1D78A=3B5 1D78B=3B8 1D78C=3BA 1D78D=3C6 1D78E=3C1 1D78F=3C0
    1D790=3B1 1D7A1=3B8 1D7A2=3C3 1D7A9=2207 1D7AA=3B1 1D7BB=3C3 1D7BC=3C3 1D7C3=2202 1D7C4=3B5
    1D7C5=3B8 1D7C6=3BA 1D7C7=3C6 1D7C8=3C1 1D7C9=3C0 1D7CA=3DD 1D7CB=3DD 1D7CC= 1D7CE=30 1D7D8=30
    1D7E2=30 1D7EC=30 1D7F6=30 1D800= 1E030=430 1E039=43A 1E03C=43E 1E047=44B 1E048=44D 1E04A=A689
    1E04B=4D9 1E04C=456 1E04D=458 1E04E=4E9 1E04F=4AF 1E050=4CF 1E051=430 1E05A=43A 1E05C=43E
    1E05E=441 1E05F=443 1E065=44A 1E067=491 1E068=456 1E069=455 1E06A=45F 1E06B=4AB 1E06C=A651
    1E06D=4B1 1E06E= 1E900=1E922 1E922= 1EE00=627 1EE02=62C 1EE03=62F 1EE04= 1EE05=648 1EE06=632
    1EE07=62D 1EE08=637 1EE09=64A 1EE0A=643 1EE0E=633 1EE0F=639 1EE10=641 1EE11=635 1EE12=642
    1EE13=631 1EE14=634 1EE15=62A 1EE17=62E 1EE18=630 1EE19=636 1EE1A=638 1EE1B=63A 1EE1C=66E
    1EE1D=6BA 1EE1E=6A1 1EE1F=66F 1EE20= 1EE21=628 1EE22=62C 1EE23= 1EE24=647 1EE25= 1EE27=62D
    1EE28= 1EE29=64A 1EE2A=643 1EE2E=633 1EE2F=639 1EE30=641 1EE31=635 1EE32=642 1EE33= 1EE34=634
    1EE35=62A 1EE37=62E 1EE38= 1EE39=636 1EE3A= 1EE3B=63A 1EE3C= 1EE42=62C 1EE43= 1EE47=62D 1EE48=
    1EE49=64A 1EE4A= 1EE4B=644 1EE4C= 1EE4D=646 1EE4E=633 1EE4F=639 1EE50= 1EE51=635 1EE52=642
    1EE53= 1EE54=634 1EE55= 1EE57=62E 1EE58= 1EE59=636 1EE5A= 1EE5B=63A 1EE5C= 1EE5D=6BA 1EE5E=
    1EE5F=66F 1EE60= 1EE61=628 1EE62=62C 1EE63= 1EE64=647 1EE65= 1EE67=62D 1EE68=637 1EE69=64A
    1EE6A=643 1EE6B= 1EE6C=645 1EE6E=633 1EE6F=639 1EE70=641 1EE71=635 1EE72=642 1EE73= 1EE74=634
    1EE75=62A 1EE77=62E 1EE78= 1EE79=636 1EE7A=638 1EE7B=63A 1EE7C=66E 1EE7D= 1EE7E=6A1 1EE7F=
    1EE80=627 1EE82=62C 1EE83=62F 1EE84=647 1EE86=632 1EE87=62D 1EE88=637 1EE89=64A 1EE8A=
    1EE8B=644 1EE8E=633 1EE8F=639 1EE90=641 1EE91=635 1EE92=642 1EE93=631 1EE94=634 1EE95=62A
    1EE97=62E 1EE98=630 1EE99=636 1EE9A=638 1EE9B=63A 1EE9C= 1EEA1=628 1EEA2=62C 1EEA3=62F 1EEA4=
    1EEA5=648 1EEA6=632 1EEA7=62D 1EEA8=637 1EEA9=64A 1EEAA= 1EEAB=644 1EEAE=633 1EEAF=639
    1EEB0=641 1EEB1=635 1EEB2=642 1EEB3=631 1EEB4=634 1EEB5=62A 1EEB7=62E 1EEB8=630 1EEB9=636
    1EEBA=638 1EEBB=63A 1EEBC= 1F100=30+2E 1F101=30+2C 1F102=31+2C 1F103=32+2C 1F104=33+2C
    1F105=34+2C 1F106=35+2C 1F107=36+2C 1F108=37+2C 1F109=38+2C 1F10A=39+2C 1F10B= 1F110=28+61+29
    1F111=28+62+29 1F112=28+63+29 1F113=28+64+29 1F114=28+65+29 1F115=28+66+29 1F116=28+67+29
    1F117=28+68+29 1F118=28+69+29 1F119=28+6A+29 1F11A=28+6B+29 1F11B=28+6C+29 1F11C=28+6D+29
    1F11D=28+6E+29 1F11E=28+6F+29 1F11F=28+70+29 1F120=28+71+29 1F121=28+72+29 1F122=28+73+29
    1F123=28+74+29 1F124=28+75+29 1F125=28+76+29 1F126=28+77+29 1F127=28+78+29 1F128=28+79+29
    1F129=28+7A+29 1F12A=3014+73+3015 1F12B=63 1F12C=72 1F12D=63+64 1F12E=77+7A 1F12F= 1F130=61
    1F14A=68+76 1F14B=6D+76 1F14C=73+64 1F14D=73+73 1F14E=70+70+76 1F14F=77+63 1F150= 1F16A=6D+63
    1F16B=6D+64 1F16C=6D+72 1F16D= 1F190=64+6A 1F191= 1F200=307B+304B 1F201=30B3+30B3 1F202=30B5
    1F203= 1F210=624B 1F211=5B57 1F212=53CC 1F213=30C7 1F214=4E8C 1F215=591A 1F216=89E3 1F217=5929
    1F218=4EA4 1F219=6620 1F21A=7121 1F21B=6599 1F21C=524D 1F21D=5F8C 1F21E=518D 1F21F=65B0
    1F220=521D 1F221=7D42 1F222=751F 1F223=8CA9 1F224=58F0 1F225=5439 1F226=6F14 1F227=6295
    1F228=6355 1F229=4E00 1F22A=4E09 1F22B=904A 1F22C=5DE6 1F22D=4E2D 1F22E=53F3 1F22F=6307
    1F230=8D70 1F231=6253 1F232=7981 1F233=7A7A 1F234=5408 1F235=6E80 1F236=6709 1F237=6708
    1F238=7533 1F239=5272 1F23A=55B6 1F23B=914D 1F23C= 1F240=3014+672C+3015 1F241=3014+4E09+3015
    1F242=3014+4E8C+3015 1F243=3014+5B89+3015 1F244=3014+70B9+3015 1F245=3014+6253+3015
    1F246=3014+76D7+3015 1F247=3014+52DD+3015 1F248=3014+6557+3015 1F249= 1F250=5F97 1F251=53EF
    1F252= 1FBF0=30 1FBFA= 2F800=4E3D 2F801=4E38 2F802=4E41 2F803=20122 2F804=4F60 2F805=4FAE
    2F806=4FBB 2F807=5002 2F808=507A 2F809=5099 2F80A=50E7 2F80B=50CF 2F80C=349E 2F80D=2063A
    2F80E=514D 2F80F=5154 2F810=5164 2F811=5177 2F812=2051C 2F813=34B9 2F814=5167 2F815=518D
    2F816=2054B 2F817=5197 2F818=51A4 2F819=4ECC 2F81A=51AC 2F81B=51B5 2F81C=291DF 2F81D=51F5
    2F81E=5203 2F81F=34DF 2F820=523B 2F821=5246 2F822=5272 2F823=5277 2F824=3515 2F825=52C7
    2F826=52C9 2F827=52E4 2F828=52FA 2F829=5305 2F82B=5317 2F82C=5349 2F82D=5351 2F82E=535A
    2F82F=5373 2F830=537D 2F831=537F 2F832=537F 2F833=537F 2F834=20A2C 2F835=7070 2F836=53CA
    2F837=53DF 2F838=20B63 2F839=53EB 2F83A=53F1 2F83B=5406 2F83C=549E 2F83D=5438 2F83E=5448
    2F83F=5468 2F840=54A2 2F841=54F6 2F842=5510 2F843=5553 2F844=5563 2F845=5584 2F846=5584
    2F847=5599 2F848=55AB 2F849=55B3 2F84A=55C2 2F84B=5716 2F84C=5606 2F84D=5717 2F84E=5651
    2F84F=5674 2F850=5207 2F851=58EE 2F852=57CE 2F853=57F4 2F854=580D 2F855=578B 2F856=5832
    2F857=5831 2F858=58AC 2F859=214E4 2F85A=58F2 2F85B=58F7 2F85C=5906 2F85D=591A 2F85E=5922
    2F85F=5962 2F860=216A8 2F861=216EA 2F862=59EC 2F863=5A1B 2F864=5A27 2F865=59D8 2F866=5A66
    2F867=36EE 2F868=36FC 2F869=5B08 2F86A=5B3E 2F86B=5B3E 2F86C=219C8 2F86D=5BC3 2F86E=5BD8
    2F86F=5BE7 2F870=5BF3 2F871=21B18 2F872=5BFF 2F873=5C06 2F874=5F53 2F875=5C22 2F876=3781
    2F877=5C60 2F878=5C6E 2F879=5CC0 2F87A=5C8D 2F87B=21DE4 2F87C=5D43 2F87D=21DE6 2F87E=5D6E
    2F87F=5D6B 2F880=5D7C 2F881=5DE1 2F883=382F 2F884=5DFD 2F885=5E28 2F886=5E3D 2F887=5E69
    2F888=3862 2F889=22183 2F88A=387C 2F88B=5EB0 2F88C=5EB3 2F88D=5EB6 2F88E=5ECA 2F88F=2A392
    2F890=5EFE 2F891=22331 2F892=22331 2F893=8201 2F894=5F22 2F895=5F22 2F896=38C7 2F897=232B8
    2F898=261DA 2F899=5F62 2F89A=5F6B 2F89B=38E3 2F89C=5F9A 2F89D=5FCD 2F89E=5FD7 2F89F=5FF9
    2F8A0=6081 2F8A1=393A 2F8A2=391C 2F8A3=6094 2F8A4=226D4 2F8A5=60C7 2F8A6=6148 2F8A7=614C
    2F8A8=614E 2F8A9=614C 2F8AA=617A 2F8AB=618E 2F8AC=61B2 2F8AD=61A4 2F8AE=61AF 2F8AF=61DE
    2F8B0=61F2 2F8B1=61F6 2F8B2=6210 2F8B3=621B 2F8B4=625D 2F8B5=62B1 2F8B6=62D4 2F8B7=6350
    2F8B8=22B0C 2F8B9=633D 2F8BA=62FC 2F8BB=6368 2F8BC=6383 2F8BD=63E4 2F8BE=22BF1 2F8BF=6422
    2F8C0=63C5 2F8C1=63A9 2F8C2=3A2E 2F8C3=6469 2F8C4=647E 2F8C5=649D 2F8C6=6477 2F8C7=3A6C
    2F8C8=654F 2F8C9=656C 2F8CA=2300A 2F8CB=65E3 2F8CC=66F8 2F8CD=6649 2F8CE=3B19 2F8CF=6691
    2F8D0=3B08 2F8D1=3AE4 2F8D2=5192 2F8D3=5195 2F8D4=6700 2F8D5=669C 2F8D6=80AD 2F8D7=43D9
    2F8D8=6717 2F8D9=671B 2F8DA=6721 2F8DB=675E 2F8DC=6753 2F8DD=233C3 2F8DE=3B49 2F8DF=67FA
    2F8E0=6785 2F8E1=6852 2F8E2=6885 2F8E3=2346D 2F8E4=688E 2F8E5=681F 2F8E6=6914 2F8E7=3B9D
    2F8E8=6942 2F8E9=69A3 2F8EA=69EA 2F8EB=6AA8 2F8EC=236A3 2F8ED=6ADB 2F8EE=3C18 2F8EF=6B21
    2F8F0=238A7 2F8F1=6B54 2F8F2=3C4E 2F8F3=6B72 2F8F4=6B9F 2F8F5=6BBA 2F8F7=23A8D 2F8F8=21D0B
    2F8F9=23AFA 2F8FA=6C4E 2F8FB=23CBC 2F8FC=6CBF 2F8FD=6CCD 2F8FE=6C67 2F8FF=6D16 2F900=6D3E
    2F901=6D77 2F902=6D41 2F903=6D69 2F904=6D78 2F905=6D85 2F906=23D1E 2F907=6D34 2F908=6E2F
    2F909=6E6E 2F90A=3D33 2F90B=6ECB 2F90C=6EC7 2F90D=23ED1 2F90E=6DF9 2F90F=6F6E 2F910=23F5E
    2F911=23F8E 2F912=6FC6 2F913=7039 2F914=701E 2F915=701B 2F916=3D96 2F917=704A 2F918=707D
    2F919=7077 2F91A=70AD 2F91B=20525 2F91C=7145 2F91D=24263 2F91E=719C 2F91F=243AB 2F920=7228
    2F921=7235 2F922=7250 2F923=24608 2F924=7280 2F925=7295 2F926=24735 2F927=24814 2F928=737A
    2F929=738B 2F92A=3EAC 2F92B=73A5 2F92C=3EB8 2F92D=3EB8 2F92E=7447 2F92F=745C 2F930=7471
    2F931=7485 2F932=74CA 2F933=3F1B 2F934=7524 2F935=24C36 2F936=753E 2F937=24C92 2F938=7570
    2F939=2219F 2F93A=7610 2F93B=24FA1 2F93C=24FB8 2F93D=25044 2F93E=3FFC 2F93F=4008 2F940=76F4
    2F941=250F3 2F942=250F2 2F943=25119 2F944=25133 2F945=771E 2F947=771F 2F948=774A 2F949=4039
    2F94A=778B 2F94B=4046 2F94C=4096 2F94D=2541D 2F94E=784E 2F94F=788C 2F950=78CC 2F951=40E3
    2F952=25626 2F953=7956 2F954=2569A 2F955=256C5 2F956=798F 2F957=79EB 2F958=412F 2F959=7A40
    2F95A=7A4A 2F95B=7A4F 2F95C=2597C 2F95D=25AA7 2F95E=25AA7 2F95F=7AEE 2F960=4202 2F961=25BAB
    2F962=7BC6 2F963=7BC9 2F964=4227 2F965=25C80 2F966=7CD2 2F967=42A0 2F968=7CE8 2F969=7CE3
    2F96A=7D00 2F96B=25F86 2F96C=7D63 2F96D=4301 2F96E=7DC7 2F96F=7E02 2F970=7E45 2F971=4334
    2F972=26228 2F973=26247 2F974=4359 2F975=262D9 2F976=7F7A 2F977=2633E 2F978=7F95 2F979=7FFA
    2F97A=8005 2F97B=264DA 2F97C=26523 2F97D=8060 2F97E=265A8 2F97F=8070 2F980=2335F 2F981=43D5
    2F982=80B2 2F983=8103 2F984=440B 2F985=813E 2F986=5AB5 2F987=267A7 2F988=267B5 2F989=23393
    2F98A=2339C 2F98B=8201 2F98C=8204 2F98D=8F9E 2F98E=446B 2F98F=8291 2F990=828B 2F991=829D
    2F992=52B3 2F993=82B1 2F994=82B3 2F995=82BD 2F996=82E6 2F997=26B3C 2F998=82E5 2F999=831D
    2F99A=8363 2F99B=83AD 2F99C=8323 2F99D=83BD 2F99E=83E7 2F99F=8457 2F9A0=8353 2F9A1=83CA
    2F9A2=83CC 2F9A3=83DC 2F9A4=26C36 2F9A5=26D6B 2F9A6=26CD5 2F9A7=452B 2F9A8=84F1 2F9A9=84F3
    2F9AA=8516 2F9AB=273CA 2F9AC=8564 2F9AD=26F2C 2F9AE=455D 2F9AF=4561 2F9B0=26FB1 2F9B1=270D2
    2F9B2=456B 2F9B3=8650 2F9B4=865C 2F9B5=8667 2F9B6=8669 2F9B7=86A9 2F9B8=8688 2F9B9=870E
    2F9BA=86E2 2F9BB=8779 2F9BC=8728 2F9BD=876B 2F9BE=8786 2F9BF=45D7 2F9C0=87E1 2F9C1=8801
    2F9C2=45F9 2F9C3=8860 2F9C4=8863 2F9C5=27667 2F9C6=88D7 2F9C7=88DE 2F9C8=4635 2F9C9=88FA
    2F9CA=34BB 2F9CB=278AE 2F9CC=27966 2F9CD=46BE 2F9CE=46C7 2F9CF=8AA0 2F9D0=8AED 2F9D1=8B8A
    2F9D2=8C55 2F9D3=27CA8 2F9D4=8CAB 2F9D5=8CC1 2F9D6=8D1B 2F9D7=8D77 2F9D8=27F2F 2F9D9=20804
    2F9DA=8DCB 2F9DB=8DBC 2F9DC=8DF0 2F9DD=208DE 2F9DE=8ED4 2F9DF=8F38 2F9E0=285D2 2F9E1=285ED
    2F9E2=9094 2F9E3=90F1 2F9E4=9111 2F9E5=2872E 2F9E6=911B 2F9E7=9238 2F9E8=92D7 2F9EA=927C
    2F9EB=93F9 2F9EC=9415 2F9ED=28BFA 2F9EE=958B 2F9EF=4995 2F9F0=95B7 2F9F1=28D77 2F9F2=49E6
    2F9F3=96C3 2F9F4=5DB2 2F9F5=9723 2F9F6=29145 2F9F7=2921A 2F9F8=4A6E 2F9F9=4A76 2F9FA=97E0
    2F9FB=2940A 2F9FC=4AB2 2F9FD=29496 2F9FE=980B 2F9FF=980B 2FA00=9829 2FA01=295B6 2FA02=98E2
    2FA03=4B33 2FA04=9929 2FA05=99A7 2FA06=99C2 2FA07=99FE 2FA08=4BCE 2FA09=29B30 2FA0A=9B12
    2FA0B=9C40 2FA0C=9CFD 2FA0D=4CCE 2FA0E=4CED 2FA0F=9D67 2FA10=2A0CE 2FA11=4CF8 2FA12=2A105
    2FA13=2A20E 2FA14=2A291 2FA15=9EBB 2FA16=4D56 2FA17=9EF9 2FA18=9EFE 2FA19=9F05 2FA1A=9F0F
    2FA1B=9F16 2FA1C=9F3B 2FA1D=2A600 2FA1E= E0000=- E0001=- E0002=- E0003=- E0004=- E0005=-
    E0006=- E0007=- E0008=- E0009=- E000A=- E000B=- E000C=- E000D=- E000E=- E000F=- E0010=-
    E0011=- E0012=- E0013=- E0014=- E0015=- E0016=- E0017=- E0018=- E0019=- E001A=- E001B=-
    E001C=- E001D=- E001E=- E001F=- E0020=- E0021=- E0022=- E0023=- E0024=- E0025=- E0026=-
    E0027=- E0028=- E0029=- E002A=- E002B=- E002C=- E002D=- E002E=- E002F=- E0030=- E0031=-
    E0032=- E0033=- E0034=- E0035=- E0036=- E0037=- E0038=- E0039=- E003A=- E003B=- E003C=-
    E003D=- E003E=- E003F=- E0040=- E0041=- E0042=- E0043=- E0044=- E0045=- E0046=- E0047=-
    E0048=- E0049=- E004A=- E004B=- E004C=- E004D=- E004E=- E004F=- E0050=- E0051=- E0052=-
    E0053=- E0054=- E0055=- E0056=- E0057=- E0058=- E0059=- E005A=- E005B=- E005C=- E005D=-
    E005E=- E005F=- E0060=- E0061=- E0062=- E0063=- E0064=- E0065=- E0066=- E0067=- E0068=-
    E0069=- E006A=- E006B=- E006C=- E006D=- E006E=- E006F=- E0070=- E0071=- E0072=- E0073=-
    E0074=- E0075=- E0076=- E0077=- E0078=- E0079=- E007A=- E007B=- E007C=- E007D=- E007E=-
    E007F=- E0080=- E0081=- E0082=- E0083=- E0084=- E0085=- E0086=- E0087=- E0088=- E0089=-
    E008A=- E008B=- E008C=- E008D=- E008E=- E008F=- E0090=- E0091=- E0092=- E0093=- E0094=-
    E0095=- E0096=- E0097=- E0098=- E0099=- E009A=- E009B=- E009C=- E009D=- E009E=- E009F=-
    E00A0=- E00A1=- E00A2=- E00A3=- E00A4=- E00A5=- E00A6=- E00A7=- E00A8=- E00A9=- E00AA=-
    E00AB=- E00AC=- E00AD=- E00AE=- E00AF=- E00B0=- E00B1=- E00B2=- E00B3=- E00B4=- E00B5=-
    E00B6=- E00B7=- E00B8=- E00B9=- E00BA=- E00BB=- E00BC=- E00BD=- E00BE=- E00BF=- E00C0=-
    E00C1=- E00C2=- E00C3=- E00C4=- E00C5=- E00C6=- E00C7=- E00C8=- E00C9=- E00CA=- E00CB=-
    E00CC=- E00CD=- E00CE=- E00CF=- E00D0=- E00D1=- E00D2=- E00D3=- E00D4=- E00D5=- E00D6=-
    E00D7=- E00D8=- E00D9=- E00DA=- E00DB=- E00DC=- E00DD=- E00DE=- E00DF=- E00E0=- E00E1=-
    E00E2=- E00E3=- E00E4=- E00E5=- E00E6=- E00E7=- E00E8=- E00E9=- E00EA=- E00EB=- E00EC=-
    E00ED=- E00EE=- E00EF=- E00F0=- E00F1=- E00F2=- E00F3=- E00F4=- E00F5=- E00F6=- E00F7=-
    E00F8=- E00F9=- E00FA=- E00FB=- E00FC=- E00FD=- E00FE=- E00FF=- E0100=- E0101=- E0102=-
    E0103=- E0104=- E0105=- E0106=- E0107=- E0108=- E0109=- E010A=- E010B=- E010C=- E010D=-
    E010E=- E010F=- E0110=- E0111=- E0112=- E0113=- E0114=- E0115=- E0116=- E0117=- E0118=-
    E0119=- E011A=- E011B=- E011C=- E011D=- E011E=- E011F=- E0120=- E0121=- E0122=- E0123=-
    E0124=- E0125=- E0126=- E0127=- E0128=- E0129=- E012A=- E012B=- E012C=- E012D=- E012E=-
    E012F=- E0130=- E0131=- E0132=- E0133=- E0134=- E0135=- E0136=- E0137=- E0138=- E0139=-
    E013A=- E013B=- E013C=- E013D=- E013E=- E013F=- E0140=- E0141=- E0142=- E0143=- E0144=-
    E0145=- E0146=- E0147=- E0148=- E0149=- E014A=- E014B=- E014C=- E014D=- E014E=- E014F=-
    E0150=- E0151=- E0152=- E0153=- E0154=- E0155=- E0156=- E0157=- E0158=- E0159=- E015A=-
    E015B=- E015C=- E015D=- E015E=- E015F=- E0160=- E0161=- E0162=- E0163=- E0164=- E0165=-
    E0166=- E0167=- E0168=- E0169=- E016A=- E016B=- E016C=- E016D=- E016E=- E016F=- E0170=-
    E0171=- E0172=- E0173=- E0174=- E0175=- E0176=- E0177=- E0178=- E0179=- E017A=- E017B=-
    E017C=- E017D=- E017E=- E017F=- E0180=- E0181=- E0182=- E0183=- E0184=- E0185=- E0186=-
    E0187=- E0188=- E0189=- E018A=- E018B=- E018C=- E018D=- E018E=- E018F=- E0190=- E0191=-
    E0192=- E0193=- E0194=- E0195=- E0196=- E0197=- E0198=- E0199=- E019A=- E019B=- E019C=-
    E019D=- E019E=- E019F=- E01A0=- E01A1=- E01A2=- E01A3=- E01A4=- E01A5=- E01A6=- E01A7=-
    E01A8=- E01A9=- E01AA=- E01AB=- E01AC=- E01AD=- E01AE=- E01AF=- E01B0=- E01B1=- E01B2=-
    E01B3=- E01B4=- E01B5=- E01B6=- E01B7=- E01B8=- E01B9=- E01BA=- E01BB=- E01BC=- E01BD=-
    E01BE=- E01BF=- E01C0=- E01C1=- E01C2=- E01C3=- E01C4=- E01C5=- E01C6=- E01C7=- E01C8=-
    E01C9=- E01CA=- E01CB=- E01CC=- E01CD=- E01CE=- E01CF=- E01D0=- E01D1=- E01D2=- E01D3=-
    E01D4=- E01D5=- E01D6=- E01D7=- E01D8=- E01D9=- E01DA=- E01DB=- E01DC=- E01DD=- E01DE=-
    E01DF=- E01E0=- E01E1=- E01E2=- E01E3=- E01E4=- E01E5=- E01E6=- E01E7=- E01E8=- E01E9=-
    E01EA=- E01EB=- E01EC=- E01ED=- E01EE=- E01EF=- E01F0=- E01F1=- E01F2=- E01F3=- E01F4=-
    E01F5=- E01F6=- E01F7=- E01F8=- E01F9=- E01FA=- E01FB=- E01FC=- E01FD=- E01FE=- E01FF=-
    E0200=- E0201=- E0202=- E0203=- E0204=- E0205=- E0206=- E0207=- E0208=- E0209=- E020A=-
    E020B=- E020C=- E020D=- E020E=- E020F=- E0210=- E0211=- E0212=- E0213=- E0214=- E0215=-
    E0216=- E0217=- E0218=- E0219=- E021A=- E021B=- E021C=- E021D=- E021E=- E021F=- E0220=-
    E0221=- E0222=- E0223=- E0224=- E0225=- E0226=- E0227=- E0228=- E0229=- E022A=- E022B=-
    E022C=- E022D=- E022E=- E022F=- E0230=- E0231=- E0232=- E0233=- E0234=- E0235=- E0236=-
    E0237=- E0238=- E0239=- E023A=- E023B=- E023C=- E023D=- E023E=- E023F=- E0240=- E0241=-
    E0242=- E0243=- E0244=- E0245=- E0246=- E0247=- E0248=- E0249=- E024A=- E024B=- E024C=-
    E024D=- E024E=- E024F=- E0250=- E0251=- E0252=- E0253=- E0254=- E0255=- E0256=- E0257=-
    E0258=- E0259=- E025A=- E025B=- E025C=- E025D=- E025E=- E025F=- E0260=- E0261=- E0262=-
    E0263=- E0264=- E0265=- E0266=- E0267=- E0268=- E0269=- E026A=- E026B=- E026C=- E026D=-
    E026E=- E026F=- E0270=- E0271=- E0272=- E0273=- E0274=- E0275=- E0276=- E0277=- E0278=-
    E0279=- E027A=- E027B=- E027C=- E027D=- E027E=- E027F=- E0280=- E0281=- E0282=- E0283=-
    E0284=- E0285=- E0286=- E0287=- E0288=- E0289=- E028A=- E028B=- E028C=- E028D=- E028E=-
    E028F=- E0290=- E0291=- E0292=- E0293=- E0294=- E0295=- E0296=- E0297=- E0298=- E0299=-
    E029A=- E029B=- E029C=- E029D=- E029E=- E029F=- E02A0=- E02A1=- E02A2=- E02A3=- E02A4=-
    E02A5=- E02A6=- E02A7=- E02A8=- E02A9=- E02AA=- E02AB=- E02AC=- E02AD=- E02AE=- E02AF=-
    E02B0=- E02B1=- E02B2=- E02B3=- E02B4=- E02B5=- E02B6=- E02B7=- E02B8=- E02B9=- E02BA=-
    E02BB=- E02BC=- E02BD=- E02BE=- E02BF=- E02C0=- E02C1=- E02C2=- E02C3=- E02C4=- E02C5=-
    E02C6=- E02C7=- E02C8=- E02C9=- E02CA=- E02CB=- E02CC=- E02CD=- E02CE=- E02CF=- E02D0=-
    E02D1=- E02D2=- E02D3=- E02D4=- E02D5=- E02D6=- E02D7=- E02D8=- E02D9=- E02DA=- E02DB=-
    E02DC=- E02DD=- E02DE=- E02DF=- E02E0=- E02E1=- E02E2=- E02E3=- E02E4=- E02E5=- E02E6=-
    E02E7=- E02E8=- E02E9=- E02EA=- E02EB=- E02EC=- E02ED=- E02EE=- E02EF=- E02F0=- E02F1=-
    E02F2=- E02F3=- E02F4=- E02F5=- E02F6=- E02F7=- E02F8=- E02F9=- E02FA=- E02FB=- E02FC=-
    E02FD=- E02FE=- E02FF=- E0300=- E0301=- E0302=- E0303=- E0304=- E0305=- E0306=- E0307=-
    E0308=- E0309=- E030A=- E030B=- E030C=- E030D=- E030E=- E030F=- E0310=- E0311=- E0312=-
    E0313=- E0314=- E0315=- E0316=- E0317=- E0318=- E0319=- E031A=- E031B=- E031C=- E031D=-
    E031E=- E031F=- E0320=- E0321=- E0322=- E0323=- E0324=- E0325=- E0326=- E0327=- E0328=-
    E0329=- E032A=- E032B=- E032C=- E032D=- E032E=- E032F=- E0330=- E0331=- E0332=- E0333=-
    E0334=- E0335=- E0336=- E0337=- E0338=- E0339=- E033A=- E033B=- E033C=- E033D=- E033E=-
    E033F=- E0340=- E0341=- E0342=- E0343=- E0344=- E0345=- E0346=- E0347=- E0348=- E0349=-
    E034A=- E034B=- E034C=- E034D=- E034E=- E034F=- E0350=- E0351=- E0352=- E0353=- E0354=-
    E0355=- E0356=- E0357=- E0358=- E0359=- E035A=- E035B=- E035C=- E035D=- E035E=- E035F=-
    E0360=- E0361=- E0362=- E0363=- E0364=- E0365=- E0366=- E0367=- E0368=- E0369=- E036A=-
    E036B=- E036C=- E036D=- E036E=- E036F=- E0370=- E0371=- E0372=- E0373=- E0374=- E0375=-
    E0376=- E0377=- E0378=- E0379=- E037A=- E037B=- E037C=- E037D=- E037E=- E037F=- E0380=-
    E0381=- E0382=- E0383=- E0384=- E0385=- E0386=- E0387=- E0388=- E0389=- E038A=- E038B=-
    E038C=- E038D=- E038E=- E038F=- E0390=- E0391=- E0392=- E0393=- E0394=- E0395=- E0396=-
    E0397=- E0398=- E0399=- E039A=- E039B=- E039C=- E039D=- E039E=- E039F=- E03A0=- E03A1=-
    E03A2=- E03A3=- E03A4=- E03A5=- E03A6=- E03A7=- E03A8=- E03A9=- E03AA=- E03AB=- E03AC=-
    E03AD=- E03AE=- E03AF=- E03B0=- E03B1=- E03B2=- E03B3=- E03B4=- E03B5=- E03B6=- E03B7=-
    E03B8=- E03B9=- E03BA=- E03BB=- E03BC=- E03BD=- E03BE=- E03BF=- E03C0=- E03C1=- E03C2=-
    E03C3=- E03C4=- E03C5=- E03C6=- E03C7=- E03C8=- E03C9=- E03CA=- E03CB=- E03CC=- E03CD=-
    E03CE=- E03CF=- E03D0=- E03D1=- E03D2=- E03D3=- E03D4=- E03D5=- E03D6=- E03D7=- E03D8=-
    E03D9=- E03DA=- E03DB=- E03DC=- E03DD=- E03DE=- E03DF=- E03E0=- E03E1=- E03E2=- E03E3=-
    E03E4=- E03E5=- E03E6=- E03E7=- E03E8=- E03E9=- E03EA=- E03EB=- E03EC=- E03ED=- E03EE=-
    E03EF=- E03F0=- E03F1=- E03F2=- E03F3=- E03F4=- E03F5=- E03F6=- E03F7=- E03F8=- E03F9=-
    E03FA=- E03FB=- E03FC=- E03FD=- E03FE=- E03FF=- E0400=- E0401=- E0402=- E0403=- E0404=-
    E0405=- E0406=- E0407=- E0408=- E0409=- E040A=- E040B=- E040C=- E040D=- E040E=- E040F=-
    E0410=- E0411=- E0412=- E0413=- E0414=- E0415=- E0416=- E0417=- E0418=- E0419=- E041A=-
    E041B=- E041C=- E041D=- E041E=- E041F=- E0420=- E0421=- E0422=- E0423=- E0424=- E0425=-
    E0426=- E0427=- E0428=- E0429=- E042A=- E042B=- E042C=- E042D=- E042E=- E042F=- E0430=-
    E0431=- E0432=- E0433=- E0434=- E0435=- E0436=- E0437=- E0438=- E0439=- E043A=- E043B=-
    E043C=- E043D=- E043E=- E043F=- E0440=- E0441=- E0442=- E0443=- E0444=- E0445=- E0446=-
    E0447=- E0448=- E0449=- E044A=- E044B=- E044C=- E044D=- E044E=- E044F=- E0450=- E0451=-
    E0452=- E0453=- E0454=- E0455=- E0456=- E0457=- E0458=- E0459=- E045A=- E045B=- E045C=-
    E045D=- E045E=- E045F=- E0460=- E0461=- E0462=- E0463=- E0464=- E0465=- E0466=- E0467=-
    E0468=- E0469=- E046A=- E046B=- E046C=- E046D=- E046E=- E046F=- E0470=- E0471=- E0472=-
    E0473=- E0474=- E0475=- E0476=- E0477=- E0478=- E0479=- E047A=- E047B=- E047C=- E047D=-
    E047E=- E047F=- E0480=- E0481=- E0482=- E0483=- E0484=- E0485=- E0486=- E0487=- E0488=-
    E0489=- E048A=- E048B=- E048C=- E048D=- E048E=- E048F=- E0490=- E0491=- E0492=- E0493=-
    E0494=- E0495=- E0496=- E0497=- E0498=- E0499=- E049A=- E049B=- E049C=- E049D=- E049E=-
    E049F=- E04A0=- E04A1=- E04A2=- E04A3=- E04A4=- E04A5=- E04A6=- E04A7=- E04A8=- E04A9=-
    E04AA=- E04AB=- E04AC=- E04AD=- E04AE=- E04AF=- E04B0=- E04B1=- E04B2=- E04B3=- E04B4=-
    E04B5=- E04B6=- E04B7=- E04B8=- E04B9=- E04BA=- E04BB=- E04BC=- E04BD=- E04BE=- E04BF=-
    E04C0=- E04C1=- E04C2=- E04C3=- E04C4=- E04C5=- E04C6=- E04C7=- E04C8=- E04C9=- E04CA=-
    E04CB=- E04CC=- E04CD=- E04CE=- E04CF=- E04D0=- E04D1=- E04D2=- E04D3=- E04D4=- E04D5=-
    E04D6=- E04D7=- E04D8=- E04D9=- E04DA=- E04DB=- E04DC=- E04DD=- E04DE=- E04DF=- E04E0=-
    E04E1=- E04E2=- E04E3=- E04E4=- E04E5=- E04E6=- E04E7=- E04E8=- E04E9=- E04EA=- E04EB=-
    E04EC=- E04ED=- E04EE=- E04EF=- E04F0=- E04F1=- E04F2=- E04F3=- E04F4=- E04F5=- E04F6=-
    E04F7=- E04F8=- E04F9=- E04FA=- E04FB=- E04FC=- E04FD=- E04FE=- E04FF=- E0500=- E0501=-
    E0502=- E0503=- E0504=- E0505=- E0506=- E0507=- E0508=- E0509=- E050A=- E050B=- E050C=-
    E050D=- E050E=- E050F=- E0510=- E0511=- E0512=- E0513=- E0514=- E0515=- E0516=- E0517=-
    E0518=- E0519=- E051A=- E051B=- E051C=- E051D=- E051E=- E051F=- E0520=- E0521=- E0522=-
    E0523=- E0524=- E0525=- E0526=- E0527=- E0528=- E0529=- E052A=- E052B=- E052C=- E052D=-
    E052E=- E052F=- E0530=- E0531=- E0532=- E0533=- E0534=- E0535=- E0536=- E0537=- E0538=-
    E0539=- E053A=- E053B=- E053C=- E053D=- E053E=- E053F=- E0540=- E0541=- E0542=- E0543=-
    E0544=- E0545=- E0546=- E0547=- E0548=- E0549=- E054A=- E054B=- E054C=- E054D=- E054E=-
    E054F=- E0550=- E0551=- E0552=- E0553=- E0554=- E0555=- E0556=- E0557=- E0558=- E0559=-
    E055A=- E055B=- E055C=- E055D=- E055E=- E055F=- E0560=- E0561=- E0562=- E0563=- E0564=-
    E0565=- E0566=- E0567=- E0568=- E0569=- E056A=- E056B=- E056C=- E056D=- E056E=- E056F=-
    E0570=- E0571=- E0572=- E0573=- E0574=- E0575=- E0576=- E0577=- E0578=- E0579=- E057A=-
    E057B=- E057C=- E057D=- E057E=- E057F=- E0580=- E0581=- E0582=- E0583=- E0584=- E0585=-
    E0586=- E0587=- E0588=- E0589=- E058A=- E058B=- E058C=- E058D=- E058E=- E058F=- E0590=-
    E0591=- E0592=- E0593=- E0594=- E0595=- E0596=- E0597=- E0598=- E0599=- E059A=- E059B=-
    E059C=- E059D=- E059E=- E059F=- E05A0=- E05A1=- E05A2=- E05A3=- E05A4=- E05A5=- E05A6=-
    E05A7=- E05A8=- E05A9=- E05AA=- E05AB=- E05AC=- E05AD=- E05AE=- E05AF=- E05B0=- E05B1=-
    E05B2=- E05B3=- E05B4=- E05B5=- E05B6=- E05B7=- E05B8=- E05B9=- E05BA=- E05BB=- E05BC=-
    E05BD=- E05BE=- E05BF=- E05C0=- E05C1=- E05C2=- E05C3=- E05C4=- E05C5=- E05C6=- E05C7=-
    E05C8=- E05C9=- E05CA=- E05CB=- E05CC=- E05CD=- E05CE=- E05CF=- E05D0=- E05D1=- E05D2=-
    E05D3=- E05D4=- E05D5=- E05D6=- E05D7=- E05D8=- E05D9=- E05DA=- E05DB=- E05DC=- E05DD=-
    E05DE=- E05DF=- E05E0=- E05E1=- E05E2=- E05E3=- E05E4=- E05E5=- E05E6=- E05E7=- E05E8=-
    E05E9=- E05EA=- E05EB=- E05EC=- E05ED=- E05EE=- E05EF=- E05F0=- E05F1=- E05F2=- E05F3=-
    E05F4=- E05F5=- E05F6=- E05F7=- E05F8=- E05F9=- E05FA=- E05FB=- E05FC=- E05FD=- E05FE=-
    E05FF=- E0600=- E0601=- E0602=- E0603=- E0604=- E0605=- E0606=- E0607=- E0608=- E0609=-
    E060A=- E060B=- E060C=- E060D=- E060E=- E060F=- E0610=- E0611=- E0612=- E0613=- E0614=-
    E0615=- E0616=- E0617=- E0618=- E0619=- E061A=- E061B=- E061C=- E061D=- E061E=- E061F=-
    E0620=- E0621=- E0622=- E0623=- E0624=- E0625=- E0626=- E0627=- E0628=- E0629=- E062A=-
    E062B=- E062C=- E062D=- E062E=- E062F=- E0630=- E0631=- E0632=- E0633=- E0634=- E0635=-
    E0636=- E0637=- E0638=- E0639=- E063A=- E063B=- E063C=- E063D=- E063E=- E063F=- E0640=-
    E0641=- E0642=- E0643=- E0644=- E0645=- E0646=- E0647=- E0648=- E0649=- E064A=- E064B=-
    E064C=- E064D=- E064E=- E064F=- E0650=- E0651=- E0652=- E0653=- E0654=- E0655=- E0656=-
    E0657=- E0658=- E0659=- E065A=- E065B=- E065C=- E065D=- E065E=- E065F=- E0660=- E0661=-
    E0662=- E0663=- E0664=- E0665=- E0666=- E0667=- E0668=- E0669=- E066A=- E066B=- E066C=-
    E066D=- E066E=- E066F=- E0670=- E0671=- E0672=- E0673=- E0674=- E0675=- E0676=- E0677=-
    E0678=- E0679=- E067A=- E067B=- E067C=- E067D=- E067E=- E067F=- E0680=- E0681=- E0682=-
    E0683=- E0684=- E0685=- E0686=- E0687=- E0688=- E0689=- E068A=- E068B=- E068C=- E068D=-
    E068E=- E068F=- E0690=- E0691=- E0692=- E0693=- E0694=- E0695=- E0696=- E0697=- E0698=-
    E0699=- E069A=- E069B=- E069C=- E069D=- E069E=- E069F=- E06A0=- E06A1=- E06A2=- E06A3=-
    E06A4=- E06A5=- E06A6=- E06A7=- E06A8=- E06A9=- E06AA=- E06AB=- E06AC=- E06AD=- E06AE=-
    E06AF=- E06B0=- E06B1=- E06B2=- E06B3=- E06B4=- E06B5=- E06B6=- E06B7=- E06B8=- E06B9=-
    E06BA=- E06BB=- E06BC=- E06BD=- E06BE=- E06BF=- E06C0=- E06C1=- E06C2=- E06C3=- E06C4=-
    E06C5=- E06C6=- E06C7=- E06C8=- E06C9=- E06CA=- E06CB=- E06CC=- E06CD=- E06CE=- E06CF=-
    E06D0=- E06D1=- E06D2=- E06D3=- E06D4=- E06D5=- E06D6=- E06D7=- E06D8=- E06D9=- E06DA=-
    E06DB=- E06DC=- E06DD=- E06DE=- E06DF=- E06E0=- E06E1=- E06E2=- E06E3=- E06E4=- E06E5=-
    E06E6=- E06E7=- E06E8=- E06E9=- E06EA=- E06EB=- E06EC=- E06ED=- E06EE=- E06EF=- E06F0=-
    E06F1=- E06F2=- E06F3=- E06F4=- E06F5=- E06F6=- E06F7=- E06F8=- E06F9=- E06FA=- E06FB=-
    E06FC=- E06FD=- E06FE=- E06FF=- E0700=- E0701=- E0702=- E0703=- E0704=- E0705=- E0706=-
    E0707=- E0708=- E0709=- E070A=- E070B=- E070C=- E070D=- E070E=- E070F=- E0710=- E0711=-
    E0712=- E0713=- E0714=- E0715=- E0716=- E0717=- E0718=- E0719=- E071A=- E071B=- E071C=-
    E071D=- E071E=- E071F=- E0720=- E0721=- E0722=- E0723=- E0724=- E0725=- E0726=- E0727=-
    E0728=- E0729=- E072A=- E072B=- E072C=- E072D=- E072E=- E072F=- E0730=- E0731=- E0732=-
    E0733=- E0734=- E0735=- E0736=- E0737=- E0738=- E0739=- E073A=- E073B=- E073C=- E073D=-
    E073E=- E073F=- E0740=- E0741=- E0742=- E0743=- E0744=- E0745=- E0746=- E0747=- E0748=-
    E0749=- E074A=- E074B=- E074C=- E074D=- E074E=- E074F=- E0750=- E0751=- E0752=- E0753=-
    E0754=- E0755=- E0756=- E0757=- E0758=- E0759=- E075A=- E075B=- E075C=- E075D=- E075E=-
    E075F=- E0760=- E0761=- E0762=- E0763=- E0764=- E0765=- E0766=- E0767=- E0768=- E0769=-
    E076A=- E076B=- E076C=- E076D=- E076E=- E076F=- E0770=- E0771=- E0772=- E0773=- E0774=-
    E0775=- E0776=- E0777=- E0778=- E0779=- E077A=- E077B=- E077C=- E077D=- E077E=- E077F=-
    E0780=- E0781=- E0782=- E0783=- E0784=- E0785=- E0786=- E0787=- E0788=- E0789=- E078A=-
    E078B=- E078C=- E078D=- E078E=- E078F=- E0790=- E0791=- E0792=- E0793=- E0794=- E0795=-
    E0796=- E0797=- E0798=- E0799=- E079A=- E079B=- E079C=- E079D=- E079E=- E079F=- E07A0=-
    E07A1=- E07A2=- E07A3=- E07A4=- E07A5=- E07A6=- E07A7=- E07A8=- E07A9=- E07AA=- E07AB=-
    E07AC=- E07AD=- E07AE=- E07AF=- E07B0=- E07B1=- E07B2=- E07B3=- E07B4=- E07B5=- E07B6=-
    E07B7=- E07B8=- E07B9=- E07BA=- E07BB=- E07BC=- E07BD=- E07BE=- E07BF=- E07C0=- E07C1=-
    E07C2=- E07C3=- E07C4=- E07C5=- E07C6=- E07C7=- E07C8=- E07C9=- E07CA=- E07CB=- E07CC=-
    E07CD=- E07CE=- E07CF=- E07D0=- E07D1=- E07D2=- E07D3=- E07D4=- E07D5=- E07D6=- E07D7=-
    E07D8=- E07D9=- E07DA=- E07DB=- E07DC=- E07DD=- E07DE=- E07DF=- E07E0=- E07E1=- E07E2=-
    E07E3=- E07E4=- E07E5=- E07E6=- E07E7=- E07E8=- E07E9=- E07EA=- E07EB=- E07EC=- E07ED=-
    E07EE=- E07EF=- E07F0=- E07F1=- E07F2=- E07F3=- E07F4=- E07F5=- E07F6=- E07F7=- E07F8=-
    E07F9=- E07FA=- E07FB=- E07FC=- E07FD=- E07FE=- E07FF=- E0800=- E0801=- E0802=- E0803=-
    E0804=- E0805=- E0806=- E0807=- E0808=- E0809=- E080A=- E080B=- E080C=- E080D=- E080E=-
    E080F=- E0810=- E0811=- E0812=- E0813=- E0814=- E0815=- E0816=- E0817=- E0818=- E0819=-
    E081A=- E081B=- E081C=- E081D=- E081E=- E081F=- E0820=- E0821=- E0822=- E0823=- E0824=-
    E0825=- E0826=- E0827=- E0828=- E0829=- E082A=- E082B=- E082C=- E082D=- E082E=- E082F=-
    E0830=- E0831=- E0832=- E0833=- E0834=- E0835=- E0836=- E0837=- E0838=- E0839=- E083A=-
    E083B=- E083C=- E083D=- E083E=- E083F=- E0840=- E0841=- E0842=- E0843=- E0844=- E0845=-
    E0846=- E0847=- E0848=- E0849=- E084A=- E084B=- E084C=- E084D=- E084E=- E084F=- E0850=-
    E0851=- E0852=- E0853=- E0854=- E0855=- E0856=- E0857=- E0858=- E0859=- E085A=- E085B=-
    E085C=- E085D=- E085E=- E085F=- E0860=- E0861=- E0862=- E0863=- E0864=- E0865=- E0866=-
    E0867=- E0868=- E0869=- E086A=- E086B=- E086C=- E086D=- E086E=- E086F=- E0870=- E0871=-
    E0872=- E0873=- E0874=- E0875=- E0876=- E0877=- E0878=- E0879=- E087A=- E087B=- E087C=-
    E087D=- E087E=- E087F=- E0880=- E0881=- E0882=- E0883=- E0884=- E0885=- E0886=- E0887=-
    E0888=- E0889=- E088A=- E088B=- E088C=- E088D=- E088E=- E088F=- E0890=- E0891=- E0892=-
    E0893=- E0894=- E0895=- E0896=- E0897=- E0898=- E0899=- E089A=- E089B=- E089C=- E089D=-
    E089E=- E089F=- E08A0=- E08A1=- E08A2=- E08A3=- E08A4=- E08A5=- E08A6=- E08A7=- E08A8=-
    E08A9=- E08AA=- E08AB=- E08AC=- E08AD=- E08AE=- E08AF=- E08B0=- E08B1=- E08B2=- E08B3=-
    E08B4=- E08B5=- E08B6=- E08B7=- E08B8=- E08B9=- E08BA=- E08BB=- E08BC=- E08BD=- E08BE=-
    E08BF=- E08C0=- E08C1=- E08C2=- E08C3=- E08C4=- E08C5=- E08C6=- E08C7=- E08C8=- E08C9=-
    E08CA=- E08CB=- E08CC=- E08CD=- E08CE=- E08CF=- E08D0=- E08D1=- E08D2=- E08D3=- E08D4=-
    E08D5=- E08D6=- E08D7=- E08D8=- E08D9=- E08DA=- E08DB=- E08DC=- E08DD=- E08DE=- E08DF=-
    E08E0=- E08E1=- E08E2=- E08E3=- E08E4=- E08E5=- E08E6=- E08E7=- E08E8=- E08E9=- E08EA=-
    E08EB=- E08EC=- E08ED=- E08EE=- E08EF=- E08F0=- E08F1=- E08F2=- E08F3=- E08F4=- E08F5=-
    E08F6=- E08F7=- E08F8=- E08F9=- E08FA=- E08FB=- E08FC=- E08FD=- E08FE=- E08FF=- E0900=-
    E0901=- E0902=- E0903=- E0904=- E0905=- E0906=- E0907=- E0908=- E0909=- E090A=- E090B=-
    E090C=- E090D=- E090E=- E090F=- E0910=- E0911=- E0912=- E0913=- E0914=- E0915=- E0916=-
    E0917=- E0918=- E0919=- E091A=- E091B=- E091C=- E091D=- E091E=- E091F=- E0920=- E0921=-
    E0922=- E0923=- E0924=- E0925=- E0926=- E0927=- E0928=- E0929=- E092A=- E092B=- E092C=-
    E092D=- E092E=- E092F=- E0930=- E0931=- E0932=- E0933=- E0934=- E0935=- E0936=- E0937=-
    E0938=- E0939=- E093A=- E093B=- E093C=- E093D=- E093E=- E093F=- E0940=- E0941=- E0942=-
    E0943=- E0944=- E0945=- E0946=- E0947=- E0948=- E0949=- E094A=- E094B=- E094C=- E094D=-
    E094E=- E094F=- E0950=- E0951=- E0952=- E0953=- E0954=- E0955=- E0956=- E0957=- E0958=-
    E0959=- E095A=- E095B=- E095C=- E095D=- E095E=- E095F=- E0960=- E0961=- E0962=- E0963=-
    E0964=- E0965=- E0966=- E0967=- E0968=- E0969=- E096A=- E096B=- E096C=- E096D=- E096E=-
    E096F=- E0970=- E0971=- E0972=- E0973=- E0974=- E0975=- E0976=- E0977=- E0978=- E0979=-
    E097A=- E097B=- E097C=- E097D=- E097E=- E097F=- E0980=- E0981=- E0982=- E0983=- E0984=-
    E0985=- E0986=- E0987=- E0988=- E0989=- E098A=- E098B=- E098C=- E098D=- E098E=- E098F=-
    E0990=- E0991=- E0992=- E0993=- E0994=- E0995=- E0996=- E0997=- E0998=- E0999=- E099A=-
    E099B=- E099C=- E099D=- E099E=- E099F=- E09A0=- E09A1=- E09A2=- E09A3=- E09A4=- E09A5=-
    E09A6=- E09A7=- E09A8=- E09A9=- E09AA=- E09AB=- E09AC=- E09AD=- E09AE=- E09AF=- E09B0=-
    E09B1=- E09B2=- E09B3=- E09B4=- E09B5=- E09B6=- E09B7=- E09B8=- E09B9=- E09BA=- E09BB=-
    E09BC=- E09BD=- E09BE=- E09BF=- E09C0=- E09C1=- E09C2=- E09C3=- E09C4=- E09C5=- E09C6=-
    E09C7=- E09C8=- E09C9=- E09CA=- E09CB=- E09CC=- E09CD=- E09CE=- E09CF=- E09D0=- E09D1=-
    E09D2=- E09D3=- E09D4=- E09D5=- E09D6=- E09D7=- E09D8=- E09D9=- E09DA=- E09DB=- E09DC=-
    E09DD=- E09DE=- E09DF=- E09E0=- E09E1=- E09E2=- E09E3=- E09E4=- E09E5=- E09E6=- E09E7=-
    E09E8=- E09E9=- E09EA=- E09EB=- E09EC=- E09ED=- E09EE=- E09EF=- E09F0=- E09F1=- E09F2=-
    E09F3=- E09F4=- E09F5=- E09F6=- E09F7=- E09F8=- E09F9=- E09FA=- E09FB=- E09FC=- E09FD=-
    E09FE=- E09FF=- E0A00=- E0A01=- E0A02=- E0A03=- E0A04=- E0A05=- E0A06=- E0A07=- E0A08=-
    E0A09=- E0A0A=- E0A0B=- E0A0C=- E0A0D=- E0A0E=- E0A0F=- E0A10=- E0A11=- E0A12=- E0A13=-
    E0A14=- E0A15=- E0A16=- E0A17=- E0A18=- E0A19=- E0A1A=- E0A1B=- E0A1C=- E0A1D=- E0A1E=-
    E0A1F=- E0A20=- E0A21=- E0A22=- E0A23=- E0A24=- E0A25=- E0A26=- E0A27=- E0A28=- E0A29=-
    E0A2A=- E0A2B=- E0A2C=- E0A2D=- E0A2E=- E0A2F=- E0A30=- E0A31=- E0A32=- E0A33=- E0A34=-
    E0A35=- E0A36=- E0A37=- E0A38=- E0A39=- E0A3A=- E0A3B=- E0A3C=- E0A3D=- E0A3E=- E0A3F=-
    E0A40=- E0A41=- E0A42=- E0A43=- E0A44=- E0A45=- E0A46=- E0A47=- E0A48=- E0A49=- E0A4A=-
    E0A4B=- E0A4C=- E0A4D=- E0A4E=- E0A4F=- E0A50=- E0A51=- E0A52=- E0A53=- E0A54=- E0A55=-
    E0A56=- E0A57=- E0A58=- E0A59=- E0A5A=- E0A5B=- E0A5C=- E0A5D=- E0A5E=- E0A5F=- E0A60=-
    E0A61=- E0A62=- E0A63=- E0A64=- E0A65=- E0A66=- E0A67=- E0A68=- E0A69=- E0A6A=- E0A6B=-
    E0A6C=- E0A6D=- E0A6E=- E0A6F=- E0A70=- E0A71=- E0A72=- E0A73=- E0A74=- E0A75=- E0A76=-
    E0A77=- E0A78=- E0A79=- E0A7A=- E0A7B=- E0A7C=- E0A7D=- E0A7E=- E0A7F=- E0A80=- E0A81=-
    E0A82=- E0A83=- E0A84=- E0A85=- E0A86=- E0A87=- E0A88=- E0A89=- E0A8A=- E0A8B=- E0A8C=-
    E0A8D=- E0A8E=- E0A8F=- E0A90=- E0A91=- E0A92=- E0A93=- E0A94=- E0A95=- E0A96=- E0A97=-
    E0A98=- E0A99=- E0A9A=- E0A9B=- E0A9C=- E0A9D=- E0A9E=- E0A9F=- E0AA0=- E0AA1=- E0AA2=-
    E0AA3=- E0AA4=- E0AA5=- E0AA6=- E0AA7=- E0AA8=- E0AA9=- E0AAA=- E0AAB=- E0AAC=- E0AAD=-
    E0AAE=- E0AAF=- E0AB0=- E0AB1=- E0AB2=- E0AB3=- E0AB4=- E0AB5=- E0AB6=- E0AB7=- E0AB8=-
    E0AB9=- E0ABA=- E0ABB=- E0ABC=- E0ABD=- E0ABE=- E0ABF=- E0AC0=- E0AC1=- E0AC2=- E0AC3=-
    E0AC4=- E0AC5=- E0AC6=- E0AC7=- E0AC8=- E0AC9=- E0ACA=- E0ACB=- E0ACC=- E0ACD=- E0ACE=-
    E0ACF=- E0AD0=- E0AD1=- E0AD2=- E0AD3=- E0AD4=- E0AD5=- E0AD6=- E0AD7=- E0AD8=- E0AD9=-
    E0ADA=- E0ADB=- E0ADC=- E0ADD=- E0ADE=- E0ADF=- E0AE0=- E0AE1=- E0AE2=- E0AE3=- E0AE4=-
    E0AE5=- E0AE6=- E0AE7=- E0AE8=- E0AE9=- E0AEA=- E0AEB=- E0AEC=- E0AED=- E0AEE=- E0AEF=-
    E0AF0=- E0AF1=- E0AF2=- E0AF3=- E0AF4=- E0AF5=- E0AF6=- E0AF7=- E0AF8=- E0AF9=- E0AFA=-
    E0AFB=- E0AFC=- E0AFD=- E0AFE=- E0AFF=- E0B00=- E0B01=- E0B02=- E0B03=- E0B04=- E0B05=-
    E0B06=- E0B07=- E0B08=- E0B09=- E0B0A=- E0B0B=- E0B0C=- E0B0D=- E0B0E=- E0B0F=- E0B10=-
    E0B11=- E0B12=- E0B13=- E0B14=- E0B15=- E0B16=- E0B17=- E0B18=- E0B19=- E0B1A=- E0B1B=-
    E0B1C=- E0B1D=- E0B1E=- E0B1F=- E0B20=- E0B21=- E0B22=- E0B23=- E0B24=- E0B25=- E0B26=-
    E0B27=- E0B28=- E0B29=- E0B2A=- E0B2B=- E0B2C=- E0B2D=- E0B2E=- E0B2F=- E0B30=- E0B31=-
    E0B32=- E0B33=- E0B34=- E0B35=- E0B36=- E0B37=- E0B38=- E0B39=- E0B3A=- E0B3B=- E0B3C=-
    E0B3D=- E0B3E=- E0B3F=- E0B40=- E0B41=- E0B42=- E0B43=- E0B44=- E0B45=- E0B46=- E0B47=-
    E0B48=- E0B49=- E0B4A=- E0B4B=- E0B4C=- E0B4D=- E0B4E=- E0B4F=- E0B50=- E0B51=- E0B52=-
    E0B53=- E0B54=- E0B55=- E0B56=- E0B57=- E0B58=- E0B59=- E0B5A=- E0B5B=- E0B5C=- E0B5D=-
    E0B5E=- E0B5F=- E0B60=- E0B61=- E0B62=- E0B63=- E0B64=- E0B65=- E0B66=- E0B67=- E0B68=-
    E0B69=- E0B6A=- E0B6B=- E0B6C=- E0B6D=- E0B6E=- E0B6F=- E0B70=- E0B71=- E0B72=- E0B73=-
    E0B74=- E0B75=- E0B76=- E0B77=- E0B78=- E0B79=- E0B7A=- E0B7B=- E0B7C=- E0B7D=- E0B7E=-
    E0B7F=- E0B80=- E0B81=- E0B82=- E0B83=- E0B84=- E0B85=- E0B86=- E0B87=- E0B88=- E0B89=-
    E0B8A=- E0B8B=- E0B8C=- E0B8D=- E0B8E=- E0B8F=- E0B90=- E0B91=- E0B92=- E0B93=- E0B94=-
    E0B95=- E0B96=- E0B97=- E0B98=- E0B99=- E0B9A=- E0B9B=- E0B9C=- E0B9D=- E0B9E=- E0B9F=-
    E0BA0=- E0BA1=- E0BA2=- E0BA3=- E0BA4=- E0BA5=- E0BA6=- E0BA7=- E0BA8=- E0BA9=- E0BAA=-
    E0BAB=- E0BAC=- E0BAD=- E0BAE=- E0BAF=- E0BB0=- E0BB1=- E0BB2=- E0BB3=- E0BB4=- E0BB5=-
    E0BB6=- E0BB7=- E0BB8=- E0BB9=- E0BBA=- E0BBB=- E0BBC=- E0BBD=- E0BBE=- E0BBF=- E0BC0=-
    E0BC1=- E0BC2=- E0BC3=- E0BC4=- E0BC5=- E0BC6=- E0BC7=- E0BC8=- E0BC9=- E0BCA=- E0BCB=-
    E0BCC=- E0BCD=- E0BCE=- E0BCF=- E0BD0=- E0BD1=- E0BD2=- E0BD3=- E0BD4=- E0BD5=- E0BD6=-
    E0BD7=- E0BD8=- E0BD9=- E0BDA=- E0BDB=- E0BDC=- E0BDD=- E0BDE=- E0BDF=- E0BE0=- E0BE1=-
    E0BE2=- E0BE3=- E0BE4=- E0BE5=- E0BE6=- E0BE7=- E0BE8=- E0BE9=- E0BEA=- E0BEB=- E0BEC=-
    E0BED=- E0BEE=- E0BEF=- E0BF0=- E0BF1=- E0BF2=- E0BF3=- E0BF4=- E0BF5=- E0BF6=- E0BF7=-
    E0BF8=- E0BF9=- E0BFA=- E0BFB=- E0BFC=- E0BFD=- E0BFE=- E0BFF=- E0C00=- E0C01=- E0C02=-
    E0C03=- E0C04=- E0C05=- E0C06=- E0C07=- E0C08=- E0C09=- E0C0A=- E0C0B=- E0C0C=- E0C0D=-
    E0C0E=- E0C0F=- E0C10=- E0C11=- E0C12=- E0C13=- E0C14=- E0C15=- E0C16=- E0C17=- E0C18=-
    E0C19=- E0C1A=- E0C1B=- E0C1C=- E0C1D=- E0C1E=- E0C1F=- E0C20=- E0C21=- E0C22=- E0C23=-
    E0C24=- E0C25=- E0C26=- E0C27=- E0C28=- E0C29=- E0C2A=- E0C2B=- E0C2C=- E0C2D=- E0C2E=-
    E0C2F=- E0C30=- E0C31=- E0C32=- E0C33=- E0C34=- E0C35=- E0C36=- E0C37=- E0C38=- E0C39=-
    E0C3A=- E0C3B=- E0C3C=- E0C3D=- E0C3E=- E0C3F=- E0C40=- E0C41=- E0C42=- E0C43=- E0C44=-
    E0C45=- E0C46=- E0C47=- E0C48=- E0C49=- E0C4A=- E0C4B=- E0C4C=- E0C4D=- E0C4E=- E0C4F=-
    E0C50=- E0C51=- E0C52=- E0C53=- E0C54=- E0C55=- E0C56=- E0C57=- E0C58=- E0C59=- E0C5A=-
    E0C5B=- E0C5C=- E0C5D=- E0C5E=- E0C5F=- E0C60=- E0C61=- E0C62=- E0C63=- E0C64=- E0C65=-
    E0C66=- E0C67=- E0C68=- E0C69=- E0C6A=- E0C6B=- E0C6C=- E0C6D=- E0C6E=- E0C6F=- E0C70=-
    E0C71=- E0C72=- E0C73=- E0C74=- E0C75=- E0C76=- E0C77=- E0C78=- E0C79=- E0C7A=- E0C7B=-
    E0C7C=- E0C7D=- E0C7E=- E0C7F=- E0C80=- E0C81=- E0C82=- E0C83=- E0C84=- E0C85=- E0C86=-
    E0C87=- E0C88=- E0C89=- E0C8A=- E0C8B=- E0C8C=- E0C8D=- E0C8E=- E0C8F=- E0C90=- E0C91=-
    E0C92=- E0C93=- E0C94=- E0C95=- E0C96=- E0C97=- E0C98=- E0C99=- E0C9A=- E0C9B=- E0C9C=-
    E0C9D=- E0C9E=- E0C9F=- E0CA0=- E0CA1=- E0CA2=- E0CA3=- E0CA4=- E0CA5=- E0CA6=- E0CA7=-
    E0CA8=- E0CA9=- E0CAA=- E0CAB=- E0CAC=- E0CAD=- E0CAE=- E0CAF=- E0CB0=- E0CB1=- E0CB2=-
    E0CB3=- E0CB4=- E0CB5=- E0CB6=- E0CB7=- E0CB8=- E0CB9=- E0CBA=- E0CBB=- E0CBC=- E0CBD=-
    E0CBE=- E0CBF=- E0CC0=- E0CC1=- E0CC2=- E0CC3=- E0CC4=- E0CC5=- E0CC6=- E0CC7=- E0CC8=-
    E0CC9=- E0CCA=- E0CCB=- E0CCC=- E0CCD=- E0CCE=- E0CCF=- E0CD0=- E0CD1=- E0CD2=- E0CD3=-
    E0CD4=- E0CD5=- E0CD6=- E0CD7=- E0CD8=- E0CD9=- E0CDA=- E0CDB=- E0CDC=- E0CDD=- E0CDE=-
    E0CDF=- E0CE0=- E0CE1=- E0CE2=- E0CE3=- E0CE4=- E0CE5=- E0CE6=- E0CE7=- E0CE8=- E0CE9=-
    E0CEA=- E0CEB=- E0CEC=- E0CED=- E0CEE=- E0CEF=- E0CF0=- E0CF1=- E0CF2=- E0CF3=- E0CF4=-
    E0CF5=- E0CF6=- E0CF7=- E0CF8=- E0CF9=- E0CFA=- E0CFB=- E0CFC=- E0CFD=- E0CFE=- E0CFF=-
    E0D00=- E0D01=- E0D02=- E0D03=- E0D04=- E0D05=- E0D06=- E0D07=- E0D08=- E0D09=- E0D0A=-
    E0D0B=- E0D0C=- E0D0D=- E0D0E=- E0D0F=- E0D10=- E0D11=- E0D12=- E0D13=- E0D14=- E0D15=-
    E0D16=- E0D17=- E0D18=- E0D19=- E0D1A=- E0D1B=- E0D1C=- E0D1D=- E0D1E=- E0D1F=- E0D20=-
    E0D21=- E0D22=- E0D23=- E0D24=- E0D25=- E0D26=- E0D27=- E0D28=- E0D29=- E0D2A=- E0D2B=-
    E0D2C=- E0D2D=- E0D2E=- E0D2F=- E0D30=- E0D31=- E0D32=- E0D33=- E0D34=- E0D35=- E0D36=-
    E0D37=- E0D38=- E0D39=- E0D3A=- E0D3B=- E0D3C=- E0D3D=- E0D3E=- E0D3F=- E0D40=- E0D41=-
    E0D42=- E0D43=- E0D44=- E0D45=- E0D46=- E0D47=- E0D48=- E0D49=- E0D4A=- E0D4B=- E0D4C=-
    E0D4D=- E0D4E=- E0D4F=- E0D50=- E0D51=- E0D52=- E0D53=- E0D54=- E0D55=- E0D56=- E0D57=-
    E0D58=- E0D59=- E0D5A=- E0D5B=- E0D5C=- E0D5D=- E0D5E=- E0D5F=- E0D60=- E0D61=- E0D62=-
    E0D63=- E0D64=- E0D65=- E0D66=- E0D67=- E0D68=- E0D69=- E0D6A=- E0D6B=- E0D6C=- E0D6D=-
    E0D6E=- E0D6F=- E0D70=- E0D71=- E0D72=- E0D73=- E0D74=- E0D75=- E0D76=- E0D77=- E0D78=-
    E0D79=- E0D7A=- E0D7B=- E0D7C=- E0D7D=- E0D7E=- E0D7F=- E0D80=- E0D81=- E0D82=- E0D83=-
    E0D84=- E0D85=- E0D86=- E0D87=- E0D88=- E0D89=- E0D8A=- E0D8B=- E0D8C=- E0D8D=- E0D8E=-
    E0D8F=- E0D90=- E0D91=- E0D92=- E0D93=- E0D94=- E0D95=- E0D96=- E0D97=- E0D98=- E0D99=-
    E0D9A=- E0D9B=- E0D9C=- E0D9D=- E0D9E=- E0D9F=- E0DA0=- E0DA1=- E0DA2=- E0DA3=- E0DA4=-
    E0DA5=- E0DA6=- E0DA7=- E0DA8=- E0DA9=- E0DAA=- E0DAB=- E0DAC=- E0DAD=- E0DAE=- E0DAF=-
    E0DB0=- E0DB1=- E0DB2=- E0DB3=- E0DB4=- E0DB5=- E0DB6=- E0DB7=- E0DB8=- E0DB9=- E0DBA=-
    E0DBB=- E0DBC=- E0DBD=- E0DBE=- E0DBF=- E0DC0=- E0DC1=- E0DC2=- E0DC3=- E0DC4=- E0DC5=-
    E0DC6=- E0DC7=- E0DC8=- E0DC9=- E0DCA=- E0DCB=- E0DCC=- E0DCD=- E0DCE=- E0DCF=- E0DD0=-
    E0DD1=- E0DD2=- E0DD3=- E0DD4=- E0DD5=- E0DD6=- E0DD7=- E0DD8=- E0DD9=- E0DDA=- E0DDB=-
    E0DDC=- E0DDD=- E0DDE=- E0DDF=- E0DE0=- E0DE1=- E0DE2=- E0DE3=- E0DE4=- E0DE5=- E0DE6=-
    E0DE7=- E0DE8=- E0DE9=- E0DEA=- E0DEB=- E0DEC=- E0DED=- E0DEE=- E0DEF=- E0DF0=- E0DF1=-
    E0DF2=- E0DF3=- E0DF4=- E0DF5=- E0DF6=- E0DF7=- E0DF8=- E0DF9=- E0DFA=- E0DFB=- E0DFC=-
    E0DFD=- E0DFE=- E0DFF=- E0E00=- E0E01=- E0E02=- E0E03=- E0E04=- E0E05=- E0E06=- E0E07=-
    E0E08=- E0E09=- E0E0A=- E0E0B=- E0E0C=- E0E0D=- E0E0E=- E0E0F=- E0E10=- E0E11=- E0E12=-
    E0E13=- E0E14=- E0E15=- E0E16=- E0E17=- E0E18=- E0E19=- E0E1A=- E0E1B=- E0E1C=- E0E1D=-
    E0E1E=- E0E1F=- E0E20=- E0E21=- E0E22=- E0E23=- E0E24=- E0E25=- E0E26=- E0E27=- E0E28=-
    E0E29=- E0E2A=- E0E2B=- E0E2C=- E0E2D=- E0E2E=- E0E2F=- E0E30=- E0E31=- E0E32=- E0E33=-
    E0E34=- E0E35=- E0E36=- E0E37=- E0E38=- E0E39=- E0E3A=- E0E3B=- E0E3C=- E0E3D=- E0E3E=-
    E0E3F=- E0E40=- E0E41=- E0E42=- E0E43=- E0E44=- E0E45=- E0E46=- E0E47=- E0E48=- E0E49=-
    E0E4A=- E0E4B=- E0E4C=- E0E4D=- E0E4E=- E0E4F=- E0E50=- E0E51=- E0E52=- E0E53=- E0E54=-
    E0E55=- E0E56=- E0E57=- E0E58=- E0E59=- E0E5A=- E0E5B=- E0E5C=- E0E5D=- E0E5E=- E0E5F=-
    E0E60=- E0E61=- E0E62=- E0E63=- E0E64=- E0E65=- E0E66=- E0E67=- E0E68=- E0E69=- E0E6A=-
    E0E6B=- E0E6C=- E0E6D=- E0E6E=- E0E6F=- E0E70=- E0E71=- E0E72=- E0E73=- E0E74=- E0E75=-
    E0E76=- E0E77=- E0E78=- E0E79=- E0E7A=- E0E7B=- E0E7C=- E0E7D=- E0E7E=- E0E7F=- E0E80=-
    E0E81=- E0E82=- E0E83=- E0E84=- E0E85=- E0E86=- E0E87=- E0E88=- E0E89=- E0E8A=- E0E8B=-
    E0E8C=- E0E8D=- E0E8E=- E0E8F=- E0E90=- E0E91=- E0E92=- E0E93=- E0E94=- E0E95=- E0E96=-
    E0E97=- E0E98=- E0E99=- E0E9A=- E0E9B=- E0E9C=- E0E9D=- E0E9E=- E0E9F=- E0EA0=- E0EA1=-
    E0EA2=- E0EA3=- E0EA4=- E0EA5=- E0EA6=- E0EA7=- E0EA8=- E0EA9=- E0EAA=- E0EAB=- E0EAC=-
    E0EAD=- E0EAE=- E0EAF=- E0EB0=- E0EB1=- E0EB2=- E0EB3=- E0EB4=- E0EB5=- E0EB6=- E0EB7=-
    E0EB8=- E0EB9=- E0EBA=- E0EBB=- E0EBC=- E0EBD=- E0EBE=- E0EBF=- E0EC0=- E0EC1=- E0EC2=-
    E0EC3=- E0EC4=- E0EC5=- E0EC6=- E0EC7=- E0EC8=- E0EC9=- E0ECA=- E0ECB=- E0ECC=- E0ECD=-
    E0ECE=- E0ECF=- E0ED0=- E0ED1=- E0ED2=- E0ED3=- E0ED4=- E0ED5=- E0ED6=- E0ED7=- E0ED8=-
    E0ED9=- E0EDA=- E0EDB=- E0EDC=- E0EDD=- E0EDE=- E0EDF=- E0EE0=- E0EE1=- E0EE2=- E0EE3=-
    E0EE4=- E0EE5=- E0EE6=- E0EE7=- E0EE8=- E0EE9=- E0EEA=- E0EEB=- E0EEC=- E0EED=- E0EEE=-
    E0EEF=- E0EF0=- E0EF1=- E0EF2=- E0EF3=- E0EF4=- E0EF5=- E0EF6=- E0EF7=- E0EF8=- E0EF9=-
    E0EFA=- E0EFB=- E0EFC=- E0EFD=- E0EFE=- E0EFF=- E0F00=- E0F01=- E0F02=- E0F03=- E0F04=-
    E0F05=- E0F06=- E0F07=- E0F08=- E0F09=- E0F0A=- E0F0B=- E0F0C=- E0F0D=- E0F0E=- E0F0F=-
    E0F10=- E0F11=- E0F12=- E0F13=- E0F14=- E0F15=- E0F16=- E0F17=- E0F18=- E0F19=- E0F1A=-
    E0F1B=- E0F1C=- E0F1D=- E0F1E=- E0F1F=- E0F20=- E0F21=- E0F22=- E0F23=- E0F24=- E0F25=-
    E0F26=- E0F27=- E0F28=- E0F29=- E0F2A=- E0F2B=- E0F2C=- E0F2D=- E0F2E=- E0F2F=- E0F30=-
    E0F31=- E0F32=- E0F33=- E0F34=- E0F35=- E0F36=- E0F37=- E0F38=- E0F39=- E0F3A=- E0F3B=-
    E0F3C=- E0F3D=- E0F3E=- E0F3F=- E0F40=- E0F41=- E0F42=- E0F43=- E0F44=- E0F45=- E0F46=-
    E0F47=- E0F48=- E0F49=- E0F4A=- E0F4B=- E0F4C=- E0F4D=- E0F4E=- E0F4F=- E0F50=- E0F51=-
    E0F52=- E0F53=- E0F54=- E0F55=- E0F56=- E0F57=- E0F58=- E0F59=- E0F5A=- E0F5B=- E0F5C=-
    E0F5D=- E0F5E=- E0F5F=- E0F60=- E0F61=- E0F62=- E0F63=- E0F64=- E0F65=- E0F66=- E0F67=-
    E0F68=- E0F69=- E0F6A=- E0F6B=- E0F6C=- E0F6D=- E0F6E=- E0F6F=- E0F70=- E0F71=- E0F72=-
    E0F73=- E0F74=- E0F75=- E0F76=- E0F77=- E0F78=- E0F79=- E0F7A=- E0F7B=- E0F7C=- E0F7D=-
    E0F7E=- E0F7F=- E0F80=- E0F81=- E0F82=- E0F83=- E0F84=- E0F85=- E0F86=- E0F87=- E0F88=-
    E0F89=- E0F8A=- E0F8B=- E0F8C=- E0F8D=- E0F8E=- E0F8F=- E0F90=- E0F91=- E0F92=- E0F93=-
    E0F94=- E0F95=- E0F96=- E0F97=- E0F98=- E0F99=- E0F9A=- E0F9B=- E0F9C=- E0F9D=- E0F9E=-
    E0F9F=- E0FA0=- E0FA1=- E0FA2=- E0FA3=- E0FA4=- E0FA5=- E0FA6=- E0FA7=- E0FA8=- E0FA9=-
    E0FAA=- E0FAB=- E0FAC=- E0FAD=- E0FAE=- E0FAF=- E0FB0=- E0FB1=- E0FB2=- E0FB3=- E0FB4=-
    E0FB5=- E0FB6=- E0FB7=- E0FB8=- E0FB9=- E0FBA=- E0FBB=- E0FBC=- E0FBD=- E0FBE=- E0FBF=-
    E0FC0=- E0FC1=- E0FC2=- E0FC3=- E0FC4=- E0FC5=- E0FC6=- E0FC7=- E0FC8=- E0FC9=- E0FCA=-
    E0FCB=- E0FCC=- E0FCD=- E0FCE=- E0FCF=- E0FD0=- E0FD1=- E0FD2=- E0FD3=- E0FD4=- E0FD5=-
    E0FD6=- E0FD7=- E0FD8=- E0FD9=- E0FDA=- E0FDB=- E0FDC=- E0FDD=- E0FDE=- E0FDF=- E0FE0=-
    E0FE1=- E0FE2=- E0FE3=- E0FE4=- E0FE5=- E0FE6=- E0FE7=- E0FE8=- E0FE9=- E0FEA=- E0FEB=-
    E0FEC=- E0FED=- E0FEE=- E0FEF=- E0FF0=- E0FF1=- E0FF2=- E0FF3=- E0FF4=- E0FF5=- E0FF6=-
    E0FF7=- E0FF8=- E0FF9=- E0FFA=- E0FFB=- E0FFC=- E0FFD=- E0FFE=- E0FFF=- E1000="

end Harvest.Text
