import Harvest.Text.CodeMap
import Harvest.Text.Letter

/-!
Case mapping of texts by the full Unicode mappings.

One rule depends on the neighbours: a capital sigma becomes the final small sigma where a cased
letter stands before it and none after it, case-ignorable characters left out of account.
-/

namespace Harvest.Text

/-- The full lower case mapping of single characters. -/
def lowerMap : CodeMap := CodeMap.ofTable
  "41=61 5B= C0=E0 D7= D8=F8 DF= 100=101 101= 102=103 103= 104=105 105= 106=107 107= 108=109 109=
10A=10B 10B= 10C=10D 10D= 10E=10F 10F= 110=111 111= 112=113 113= 114=115 115= 116=117 117=
118=119 119= 11A=11B 11B= 11C=11D 11D= 11E=11F 11F= 120=121 121= 122=123 123= 124=125 125=
126=127 127= 128=129 129= 12A=12B 12B= 12C=12D 12D= 12E=12F 12F= 130=69+307 131= 132=133 133=
134=135 135= 136=137 137= 139=13A 13A= 13B=13C 13C= 13D=13E 13E= 13F=140 140= 141=142 142=
143=144 144= 145=146 146= 147=148 148= 14A=14B 14B= 14C=14D 14D= 14E=14F 14F= 150=151 151=
152=153 153= 154=155 155= 156=157 157= 158=159 159= 15A=15B 15B= 15C=15D 15D= 15E=15F 15F=
160=161 161= 162=163 163= 164=165 165= 166=167 167= 168=169 169= 16A=16B 16B= 16C=16D 16D=
16E=16F 16F= 170=171 171= 172=173 173= 174=175 175= 176=177 177= 178=FF 179=17A 17A= 17B=17C
17C= 17D=17E 17E= 181=253 182=183 183= 184=185 185= 186=254 187=188 188= 189=256 18B=18C 18C=
18E=1DD 18F=259 190=25B 191=192 192= 193=260 194=263 195= 196=269 197=268 198=199 199= 19C=26F
19D=272 19E= 19F=275 1A0=1A1 1A1= 1A2=1A3 1A3= 1A4=1A5 1A5= 1A6=280 1A7=1A8 1A8= 1A9=283 1AA=
1AC=1AD 1AD= 1AE=288 1AF=1B0 1B0= 1B1=28A 1B3=1B4 1B4= 1B5=1B6 1B6= 1B7=292 1B8=1B9 1B9= 1BC=1BD
1BD= 1C4=1C6 1C5=1C6 1C6= 1C7=1C9 1C8=1C9 1C9= 1CA=1CC 1CB=1CC 1CC= 1CD=1CE 1CE= 1CF=1D0 1D0=
1D1=1D2 1D2= 1D3=1D4 1D4= 1D5=1D6 1D6= 1D7=1D8 1D8= 1D9=1DA 1DA= 1DB=1DC 1DC= 1DE=1DF 1DF=
1E0=1E1 1E1= 1E2=1E3 1E3= 1E4=1E5 1E5= 1E6=1E7 1E7= 1E8=1E9 1E9= 1EA=1EB 1EB= 1EC=1ED 1ED=
1EE=1EF 1EF= 1F1=1F3 1F2=1F3 1F3= 1F4=1F5 1F5= 1F6=195 1F7=1BF 1F8=1F9 1F9= 1FA=1FB 1FB= 1FC=1FD
1FD= 1FE=1FF 1FF= 200=201 201= 202=203 203= 204=205 205= 206=207 207= 208=209 209= 20A=20B 20B=
20C=20D 20D= 20E=20F 20F= 210=211 211= 212=213 213= 214=215 215= 216=217 217= 218=219 219=
21A=21B 21B= 21C=21D 21D= 21E=21F 21F= 220=19E 221= 222=223 223= 224=225 225= 226=227 227=
228=229 229= 22A=22B 22B= 22C=22D 22D= 22E=22F 22F= 230=231 231= 232=233 233= 23A=2C65 23B=23C
23C= 23D=19A 23E=2C66 23F= 241=242 242= 243=180 244=289 245=28C 246=247 247= 248=249 249=
24A=24B 24B= 24C=24D 24D= 24E=24F 24F= 370=371 371= 372=373 373= 376=377 377= 37F=3F3 380=
386=3AC 387= 388=3AD 38B= 38C=3CC 38D= 38E=3CD 390= 391=3B1 3A2= 3A3=3C3 3AC= 3CF=3D7 3D0=
3D8=3D9 3D9= 3DA=3DB 3DB= 3DC=3DD 3DD= 3DE=3DF 3DF= 3E0=3E1 3E1= 3E2=3E3 3E3= 3E4=3E5 3E5=
3E6=3E7 3E7= 3E8=3E9 3E9= 3EA=3EB 3EB= 3EC=3ED 3ED= 3EE=3EF 3EF= 3F4=3B8 3F5= 3F7=3F8 3F8=
3F9=3F2 3FA=3FB 3FB= 3FD=37B 400=450 410=430 430= 460=461 461= 462=463 463= 464=465 465= 466=467
467= 468=469 469= 46A=46B 46B= 46C=46D 46D= 46E=46F 46F= 470=471 471= 472=473 473= 474=475 475=
476=477 477= 478=479 479= 47A=47B 47B= 47C=47D 47D= 47E=47F 47F= 480=481 481= 48A=48B 48B=
48C=48D 48D= 48E=48F 48F= 490=491 491= 492=493 493= 494=495 495= 496=497 497= 498=499 499=
49A=49B 49B= 49C=49D 49D= 49E=49F 49F= 4A0=4A1 4A1= 4A2=4A3 4A3= 4A4=4A5 4A5= 4A6=4A7 4A7=
4A8=4A9 4A9= 4AA=4AB 4AB= 4AC=4AD 4AD= 4AE=4AF 4AF= 4B0=4B1 4B1= 4B2=4B3 4B3= 4B4=4B5 4B5=
4B6=4B7 4B7= 4B8=4B9 4B9= 4BA=4BB 4BB= 4BC=4BD 4BD= 4BE=4BF 4BF= 4C0=4CF 4C1=4C2 4C2= 4C3=4C4
4C4= 4C5=4C6 4C6= 4C7=4C8 4C8= 4C9=4CA 4CA= 4CB=4CC 4CC= 4CD=4CE 4CE= 4D0=4D1 4D1= 4D2=4D3 4D3=
4D4=4D5 4D5= 4D6=4D7 4D7= 4D8=4D9 4D9= 4DA=4DB 4DB= 4DC=4DD 4DD= 4DE=4DF 4DF= 4E0=4E1 4E1=
4E2=4E3 4E3= 4E4=4E5 4E5= 4E6=4E7 4E7= 4E8=4E9 4E9= 4EA=4EB 4EB= 4EC=4ED 4ED= 4EE=4EF 4EF=
4F0=4F1 4F1= 4F2=4F3 4F3= 4F4=4F5 4F5= 4F6=4F7 4F7= 4F8=4F9 4F9= 4FA=4FB 4FB= 4FC=4FD 4FD=
4FE=4FF 4FF= 500=501 501= 502=503 503= 504=505 505= 506=507 507= 508=509 509= 50A=50B 50B=
50C=50D 50D= 50E=50F 50F= 510=511 511= 512=513 513= 514=515 515= 516=517 517= 518=519 519=
51A=51B 51B= 51C=51D 51D= 51E=51F 51F= 520=521 521= 522=523 523= 524=525 525= 526=527 527=
528=529 529= 52A=52B 52B= 52C=52D 52D= 52E=52F 52F= 531=561 557= 10A0=2D00 10C6= 10C7=2D27 10C8=
10CD=2D2D 10CE= 13A0=AB70 13F0=13F8 13F6= 1C90=10D0 1CBB= 1CBD=10FD 1CC0= 1E00=1E01 1E01=
1E02=1E03 1E03= 1E04=1E05 1E05= 1E06=1E07 1E07= 1E08=1E09 1E09= 1E0A=1E0B 1E0B= 1E0C=1E0D 1E0D=
1E0E=1E0F 1E0F= 1E10=1E11 1E11= 1E12=1E13 1E13= 1E14=1E15 1E15= 1E16=1E17 1E17= 1E18=1E19 1E19=
1E1A=1E1B 1E1B= 1E1C=1E1D 1E1D= 1E1E=1E1F 1E1F= 1E20=1E21 1E21= 1E22=1E23 1E23= 1E24=1E25 1E25=
1E26=1E27 1E27= 1E28=1E29 1E29= 1E2A=1E2B 1E2B= 1E2C=1E2D 1E2D= 1E2E=1E2F 1E2F= 1E30=1E31 1E31=
1E32=1E33 1E33= 1E34=1E35 1E35= 1E36=1E37 1E37= 1E38=1E39 1E39= 1E3A=1E3B 1E3B= 1E3C=1E3D 1E3D=
1E3E=1E3F 1E3F= 1E40=1E41 1E41= 1E42=1E43 1E43= 1E44=1E45 1E45= 1E46=1E47 1E47= 1E48=1E49 1E49=
1E4A=1E4B 1E4B= 1E4C=1E4D 1E4D= 1E4E=1E4F 1E4F= 1E50=1E51 1E51= 1E52=1E53 1E53= 1E54=1E55 1E55=
1E56=1E57 1E57= 1E58=1E59 1E59= 1E5A=1E5B 1E5B= 1E5C=1E5D 1E5D= 1E5E=1E5F 1E5F= 1E60=1E61 1E61=
1E62=1E63 1E63= 1E64=1E65 1E65= 1E66=1E67 1E67= 1E68=1E69 1E69= 1E6A=1E6B 1E6B= 1E6C=1E6D 1E6D=
1E6E=1E6F 1E6F= 1E70=1E71 1E71= 1E72=1E73 1E73= 1E74=1E75 1E75= 1E76=1E77 1E77= 1E78=1E79 1E79=
1E7A=1E7B 1E7B= 1E7C=1E7D 1E7D= 1E7E=1E7F 1E7F= 1E80=1E81 1E81= 1E82=1E83 1E83= 1E84=1E85 1E85=
1E86=1E87 1E87= 1E88=1E89 1E89= 1E8A=1E8B 1E8B= 1E8C=1E8D 1E8D= 1E8E=1E8F 1E8F= 1E90=1E91 1E91=
1E92=1E93 1E93= 1E94=1E95 1E95= 1E9E=DF 1E9F= 1EA0=1EA1 1EA1= 1EA2=1EA3 1EA3= 1EA4=1EA5 1EA5=
1EA6=1EA7 1EA7= 1EA8=1EA9 1EA9= 1EAA=1EAB 1EAB= 1EAC=1EAD 1EAD= 1EAE=1EAF 1EAF= 1EB0=1EB1 1EB1=
1EB2=1EB3 1EB3= 1EB4=1EB5 1EB5= 1EB6=1EB7 1EB7= 1EB8=1EB9 1EB9= 1EBA=1EBB 1EBB= 1EBC=1EBD 1EBD=
1EBE=1EBF 1EBF= 1EC0=1EC1 1EC1= 1EC2=1EC3 1EC3= 1EC4=1EC5 1EC5= 1EC6=1EC7 1EC7= 1EC8=1EC9 1EC9=
1ECA=1ECB 1ECB= 1ECC=1ECD 1ECD= 1ECE=1ECF 1ECF= 1ED0=1ED1 1ED1= 1ED2=1ED3 1ED3= 1ED4=1ED5 1ED5=
1ED6=1ED7 1ED7= 1ED8=1ED9 1ED9= 1EDA=1EDB 1EDB= 1EDC=1EDD 1EDD= 1EDE=1EDF 1EDF= 1EE0=1EE1 1EE1=
1EE2=1EE3 1EE3= 1EE4=1EE5 1EE5= 1EE6=1EE7 1EE7= 1EE8=1EE9 1EE9= 1EEA=1EEB 1EEB= 1EEC=1EED 1EED=
1EEE=1EEF 1EEF= 1EF0=1EF1 1EF1= 1EF2=1EF3 1EF3= 1EF4=1EF5 1EF5= 1EF6=1EF7 1EF7= 1EF8=1EF9 1EF9=
1EFA=1EFB 1EFB= 1EFC=1EFD 1EFD= 1EFE=1EFF 1EFF= 1F08=1F00 1F10= 1F18=1F10 1F1E= 1F28=1F20 1F30=
1F38=1F30 1F40= 1F48=1F40 1F4E= 1F59=1F51 1F5A= 1F5B=1F53 1F5C= 1F5D=1F55 1F5E= 1F5F=1F57 1F60=
1F68=1F60 1F70= 1F88=1F80 1F90= 1F98=1F90 1FA0= 1FA8=1FA0 1FB0= 1FB8=1FB0 1FBA=1F70 1FBC=1FB3
1FBD= 1FC8=1F72 1FCC=1FC3 1FCD= 1FD8=1FD0 1FDA=1F76 1FDC= 1FE8=1FE0 1FEA=1F7A 1FEC=1FE5 1FED=
1FF8=1F78 1FFA=1F7C 1FFC=1FF3 1FFD= 2126=3C9 2127= 212A=6B 212B=E5 212C= 2132=214E 2133=
2160=2170 2170= 2183=2184 2184= 24B6=24D0 24D0= 2C00=2C30 2C30= 2C60=2C61 2C61= 2C62=26B
2C63=1D7D 2C64=27D 2C65= 2C67=2C68 2C68= 2C69=2C6A 2C6A= 2C6B=2C6C 2C6C= 2C6D=251 2C6E=271
2C6F=250 2C70=252 2C71= 2C72=2C73 2C73= 2C75=2C76 2C76= 2C7E=23F 2C80=2C81 2C81= 2C82=2C83 2C83=
2C84=2C85 2C85= 2C86=2C87 2C87= 2C88=2C89 2C89= 2C8A=2C8B 2C8B= 2C8C=2C8D 2C8D= 2C8E=2C8F 2C8F=
2C90=2C91 2C91= 2C92=2C93 2C93= 2C94=2C95 2C95= 2C96=2C97 2C97= 2C98=2C99 2C99= 2C9A=2C9B 2C9B=
2C9C=2C9D 2C9D= 2C9E=2C9F 2C9F= 2CA0=2CA1 2CA1= 2CA2=2CA3 2CA3= 2CA4=2CA5 2CA5= 2CA6=2CA7 2CA7=
2CA8=2CA9 2CA9= 2CAA=2CAB 2CAB= 2CAC=2CAD 2CAD= 2CAE=2CAF 2CAF= 2CB0=2CB1 2CB1= 2CB2=2CB3 2CB3=
2CB4=2CB5 2CB5= 2CB6=2CB7 2CB7= 2CB8=2CB9 2CB9= 2CBA=2CBB 2CBB= 2CBC=2CBD 2CBD= 2CBE=2CBF 2CBF=
2CC0=2CC1 2CC1= 2CC2=2CC3 2CC3= 2CC4=2CC5 2CC5= 2CC6=2CC7 2CC7= 2CC8=2CC9 2CC9= 2CCA=2CCB 2CCB=
2CCC=2CCD 2CCD= 2CCE=2CCF 2CCF= 2CD0=2CD1 2CD1= 2CD2=2CD3 2CD3= 2CD4=2CD5 2CD5= 2CD6=2CD7 2CD7=
2CD8=2CD9 2CD9= 2CDA=2CDB 2CDB= 2CDC=2CDD 2CDD= 2CDE=2CDF 2CDF= 2CE0=2CE1 2CE1= 2CE2=2CE3 2CE3=
2CEB=2CEC 2CEC= 2CED=2CEE 2CEE= 2CF2=2CF3 2CF3= A640=A641 A641= A642=A643 A643= A644=A645 A645=
A646=A647 A647= A648=A649 A649= A64A=A64B A64B= A64C=A64D A64D= A64E=A64F A64F= A650=A651 A651=
A652=A653 A653= A654=A655 A655= A656=A657 A657= A658=A659 A659= A65A=A65B A65B= A65C=A65D A65D=
A65E=A65F A65F= A660=A661 A661= A662=A663 A663= A664=A665 A665= A666=A667 A667= A668=A669 A669=
A66A=A66B A66B= A66C=A66D A66D= A680=A681 A681= A682=A683 A683= A684=A685 A685= A686=A687 A687=
A688=A689 A689= A68A=A68B A68B= A68C=A68D A68D= A68E=A68F A68F= A690=A691 A691= A692=A693 A693=
A694=A695 A695= A696=A697 A697= A698=A699 A699= A69A=A69B A69B= A722=A723 A723= A724=A725 A725=
A726=A727 A727= A728=A729 A729= A72A=A72B A72B= A72C=A72D A72D= A72E=A72F A72F= A732=A733 A733=
A734=A735 A735= A736=A737 A737= A738=A739 A739= A73A=A73B A73B= A73C=A73D A73D= A73E=A73F A73F=
A740=A741 A741= A742=A743 A743= A744=A745 A745= A746=A747 A747= A748=A749 A749= A74A=A74B A74B=
A74C=A74D A74D= A74E=A74F A74F= A750=A751 A751= A752=A753 A753= A754=A755 A755= A756=A757 A757=
A758=A759 A759= A75A=A75B A75B= A75C=A75D A75D= A75E=A75F A75F= A760=A761 A761= A762=A763 A763=
A764=A765 A765= A766=A767 A767= A768=A769 A769= A76A=A76B A76B= A76C=A76D A76D= A76E=A76F A76F=
A779=A77A A77A= A77B=A77C A77C= A77D=1D79 A77E=A77F A77F= A780=A781 A781= A782=A783 A783=
A784=A785 A785= A786=A787 A787= A78B=A78C A78C= A78D=265 A78E= A790=A791 A791= A792=A793 A793=
A796=A797 A797= A798=A799 A799= A79A=A79B A79B= A79C=A79D A79D= A79E=A79F A79F= A7A0=A7A1 A7A1=
A7A2=A7A3 A7A3= A7A4=A7A5 A7A5= A7A6=A7A7 A7A7= A7A8=A7A9 A7A9= A7AA=266 A7AB=25C A7AC=261
A7AD=26C A7AE=26A A7AF= A7B0=29E A7B1=287 A7B2=29D A7B3=AB53 A7B4=A7B5 A7B5= A7B6=A7B7 A7B7=
A7B8=A7B9 A7B9= A7BA=A7BB A7BB= A7BC=A7BD A7BD= A7BE=A7BF A7BF= A7C0=A7C1 A7C1= A7C2=A7C3 A7C3=
A7C4=A794 A7C5=282 A7C6=1D8E A7C7=A7C8 A7C8= A7C9=A7CA A7CA= A7D0=A7D1 A7D1= A7D6=A7D7 A7D7=
A7D8=A7D9 A7D9= A7F5=A7F6 A7F6= FF21=FF41 FF3B= 10400=10428 10428= 104B0=104D8 104D4=
10570=10597 1057B= 1057C=105A3 1058B= 1058C=105B3 10593= 10594=105BB 10596= 10C80=10CC0 10CB3=
118A0=118C0 118C0= 16E40=16E60 16E60= 1E900=1E922 1E922="

/-- The full upper case mapping of single characters. -/
def upperMap : CodeMap := CodeMap.ofTable
  "61=41 7B= B5=39C B6= DF=53+53 E0=C0 F7= F8=D8 FF=178 100= 101=100 102= 103=102 104= 105=104 106=
107=106 108= 109=108 10A= 10B=10A 10C= 10D=10C 10E= 10F=10E 110= 111=110 112= 113=112 114=
115=114 116= 117=116 118= 119=118 11A= 11B=11A 11C= 11D=11C 11E= 11F=11E 120= 121=120 122=
123=122 124= 125=124 126= 127=126 128= 129=128 12A= 12B=12A 12C= 12D=12C 12E= 12F=12E 130=
131=49 132= 133=132 134= 135=134 136= 137=136 138= 13A=139 13B= 13C=13B 13D= 13E=13D 13F=
140=13F 141= 142=141 143= 144=143 145= 146=145 147= 148=147 149=2BC+4E 14A= 14B=14A 14C= 14D=14C
14E= 14F=14E 150= 151=150 152= 153=152 154= 155=154 156= 157=156 158= 159=158 15A= 15B=15A 15C=
15D=15C 15E= 15F=15E 160= 161=160 162= 163=162 164= 165=164 166= 167=166 168= 169=168 16A=
16B=16A 16C= 16D=16C 16E= 16F=16E 170= 171=170 172= 173=172 174= 175=174 176= 177=176 178=
17A=179 17B= 17C=17B 17D= 17E=17D 17F=53 180=243 181= 183=182 184= 185=184 186= 188=187 189=
18C=18B 18D= 192=191 193= 195=1F6 196= 199=198 19A=23D 19B= 19E=220 19F= 1A1=1A0 1A2= 1A3=1A2
1A4= 1A5=1A4 1A6= 1A8=1A7 1A9= 1AD=1AC 1AE= 1B0=1AF 1B1= 1B4=1B3 1B5= 1B6=1B5 1B7= 1B9=1B8 1BA=
1BD=1BC 1BE= 1BF=1F7 1C0= 1C5=1C4 1C6=1C4 1C7= 1C8=1C7 1C9=1C7 1CA= 1CB=1CA 1CC=1CA 1CD= 1CE=1CD
1CF= 1D0=1CF 1D1= 1D2=1D1 1D3= 1D4=1D3 1D5= 1D6=1D5 1D7= 1D8=1D7 1D9= 1DA=1D9 1DB= 1DC=1DB
1DD=18E 1DE= 1DF=1DE 1E0= 1E1=1E0 1E2= 1E3=1E2 1E4= 1E5=1E4 1E6= 1E7=1E6 1E8= 1E9=1E8 1EA=
1EB=1EA 1EC= 1ED=1EC 1EE= 1EF=1EE 1F0=4A+30C 1F1= 1F2=1F1 1F3=1F1 1F4= 1F5=1F4 1F6= 1F9=1F8 1FA=
1FB=1FA 1FC= 1FD=1FC 1FE= 1FF=1FE 200= 201=200 202= 203=202 204= 205=204 206= 207=206 208=
209=208 20A= 20B=20A 20C= 20D=20C 20E= 20F=20E 210= 211=210 212= 213=212 214= 215=214 216=
217=216 218= 219=218 21A= 21B=21A 21C= 21D=21C 21E= 21F=21E 220= 223=222 224= 225=224 226=
227=226 228= 229=228 22A= 22B=22A 22C= 22D=22C 22E= 22F=22E 230= 231=230 232= 233=232 234=
23C=23B 23D= 23F=2C7E 241= 242=241 243= 247=246 248= 249=248 24A= 24B=24A 24C= 24D=24C 24E=
24F=24E 250=2C6F 251=2C6D 252=2C70 253=181 254=186 255= 256=189 258= 259=18F 25A= 25B=190
25C=A7AB 25D= 260=193 261=A7AC 262= 263=194 264= 265=A78D 266=A7AA 267= 268=197 269=196 26A=A7AE
26B=2C62 26C=A7AD 26D= 26F=19C 270= 271=2C6E 272=19D 273= 275=19F 276= 27D=2C64 27E= 280=1A6
281= 282=A7C5 283=1A9 284= 287=A7B1 288=1AE 289=244 28A=1B1 28C=245 28D= 292=1B7 293= 29D=A7B2
29E=A7B0 29F= 345=399 346= 371=370 372= 373=372 374= 377=376 378= 37B=3FD 37E= 390=399+308+301
391= 3AC=386 3AD=388 3B0=3A5+308+301 3B1=391 3C2=3A3 3C3=3A3 3CC=38C 3CD=38E 3CF= 3D0=392
3D1=398 3D2= 3D5=3A6 3D6=3A0 3D7=3CF 3D8= 3D9=3D8 3DA= 3DB=3DA 3DC= 3DD=3DC 3DE= 3DF=3DE 3E0=
3E1=3E0 3E2= 3E3=3E2 3E4= 3E5=3E4 3E6= 3E7=3E6 3E8= 3E9=3E8 3EA= 3EB=3EA 3EC= 3ED=3EC 3EE=
3EF=3EE 3F0=39A 3F1=3A1 3F2=3F9 3F3=37F 3F4= 3F5=395 3F6= 3F8=3F7 3F9= 3FB=3FA 3FC= 430=410
450=400 460= 461=460 462= 463=462 464= 465=464 466= 467=466 468= 469=468 46A= 46B=46A 46C=
46D=46C 46E= 46F=46E 470= 471=470 472= 473=472 474= 475=474 476= 477=476 478= 479=478 47A=
47B=47A 47C= 47D=47C 47E= 47F=47E 480= 481=480 482= 48B=48A 48C= 48D=48C 48E= 48F=48E 490=
491=490 492= 493=492 494= 495=494 496= 497=496 498= 499=498 49A= 49B=49A 49C= 49D=49C 49E=
49F=49E 4A0= 4A1=4A0 4A2= 4A3=4A2 4A4= 4A5=4A4 4A6= 4A7=4A6 4A8= 4A9=4A8 4AA= 4AB=4AA 4AC=
4AD=4AC 4AE= 4AF=4AE 4B0= 4B1=4B0 4B2= 4B3=4B2 4B4= 4B5=4B4 4B6= 4B7=4B6 4B8= 4B9=4B8 4BA=
4BB=4BA 4BC= 4BD=4BC 4BE= 4BF=4BE 4C0= 4C2=4C1 4C3= 4C4=4C3 4C5= 4C6=4C5 4C7= 4C8=4C7 4C9=
4CA=4C9 4CB= 4CC=4CB 4CD= 4CE=4CD 4CF=4C0 4D0= 4D1=4D0 4D2= 4D3=4D2 4D4= 4D5=4D4 4D6= 4D7=4D6
4D8= 4D9=4D8 4DA= 4DB=4DA 4DC= 4DD=4DC 4DE= 4DF=4DE 4E0= 4E1=4E0 4E2= 4E3=4E2 4E4= 4E5=4E4 4E6=
4E7=4E6 4E8= 4E9=4E8 4EA= 4EB=4EA 4EC= 4ED=4EC 4EE= 4EF=4EE 4F0= 4F1=4F0 4F2= 4F3=4F2 4F4=
4F5=4F4 4F6= 4F7=4F6 4F8= 4F9=4F8 4FA= 4FB=4FA 4FC= 4FD=4FC 4FE= 4FF=4FE 500= 501=500 502=
503=502 504= 505=504 506= 507=506 508= 509=508 50A= 50B=50A 50C= 50D=50C 50E= 50F=50E 510=
511=510 512= 513=512 514= 515=514 516= 517=516 518= 519=518 51A= 51B=51A 51C= 51D=51C 51E=
51F=51E 520= 521=520 522= 523=522 524= 525=524 526= 527=526 528= 529=528 52A= 52B=52A 52C=
52D=52C 52E= 52F=52E 530= 561=531 587=535+552 588= 10D0=1C90 10FB= 10FD=1CBD 1100= 13F8=13F0
13FE= 1C80=412 1C81=414 1C82=41E 1C83=421 1C85=422 1C86=42A 1C87=462 1C88=A64A 1C89= 1D79=A77D
1D7A= 1D7D=2C63 1D7E= 1D8E=A7C6 1D8F= 1E01=1E00 1E02= 1E03=1E02 1E04= 1E05=1E04 1E06= 1E07=1E06
1E08= 1E09=1E08 1E0A= 1E0B=1E0A 1E0C= 1E0D=1E0C 1E0E= 1E0F=1E0E 1E10= 1E11=1E10 1E12= 1E13=1E12
1E14= 1E15=1E14 1E16= 1E17=1E16 1E18= 1E19=1E18 1E1A= 1E1B=1E1A 1E1C= 1E1D=1E1C 1E1E= 1E1F=1E1E
1E20= 1E21=1E20 1E22= 1E23=1E22 1E24= 1E25=1E24 1E26= 1E27=1E26 1E28= 1E29=1E28 1E2A= 1E2B=1E2A
1E2C= 1E2D=1E2C 1E2E= 1E2F=1E2E 1E30= 1E31=1E30 1E32= 1E33=1E32 1E34= 1E35=1E34 1E36= 1E37=1E36
1E38= 1E39=1E38 1E3A= 1E3B=1E3A 1E3C= 1E3D=1E3C 1E3E= 1E3F=1E3E 1E40= 1E41=1E40 1E42= 1E43=1E42
1E44= 1E45=1E44 1E46= 1E47=1E46 1E48= 1E49=1E48 1E4A= 1E4B=1E4A 1E4C= 1E4D=1E4C 1E4E= 1E4F=1E4E
1E50= 1E51=1E50 1E52= 1E53=1E52 1E54= 1E55=1E54 1E56= 1E57=1E56 1E58= 1E59=1E58 1E5A= 1E5B=1E5A
1E5C= 1E5D=1E5C 1E5E= 1E5F=1E5E 1E60= 1E61=1E60 1E62= 1E63=1E62 1E64= 1E65=1E64 1E66= 1E67=1E66
1E68= 1E69=1E68 1E6A= 1E6B=1E6A 1E6C= 1E6D=1E6C 1E6E= 1E6F=1E6E 1E70= 1E71=1E70 1E72= 1E73=1E72
1E74= 1E75=1E74 1E76= 1E77=1E76 1E78= 1E79=1E78 1E7A= 1E7B=1E7A 1E7C= 1E7D=1E7C 1E7E= 1E7F=1E7E
1E80= 1E81=1E80 1E82= 1E83=1E82 1E84= 1E85=1E84 1E86= 1E87=1E86 1E88= 1E89=1E88 1E8A= 1E8B=1E8A
1E8C= 1E8D=1E8C 1E8E= 1E8F=1E8E 1E90= 1E91=1E90 1E92= 1E93=1E92 1E94= 1E95=1E94 1E96=48+331
1E97=54+308 1E98=57+30A 1E99=59+30A 1E9A=41+2BE 1E9B=1E60 1E9C= 1EA1=1EA0 1EA2= 1EA3=1EA2 1EA4=
1EA5=1EA4 1EA6= 1EA7=1EA6 1EA8= 1EA9=1EA8 1EAA= 1EAB=1EAA 1EAC= 1EAD=1EAC 1EAE= 1EAF=1EAE 1EB0=
1EB1=1EB0 1EB2= 1EB3=1EB2 1EB4= 1EB5=1EB4 1EB6= 1EB7=1EB6 1EB8= 1EB9=1EB8 1EBA= 1EBB=1EBA 1EBC=
1EBD=1EBC 1EBE= 1EBF=1EBE 1EC0= 1EC1=1EC0 1EC2= 1EC3=1EC2 1EC4= 1EC5=1EC4 1EC6= 1EC7=1EC6 1EC8=
1EC9=1EC8 1ECA= 1ECB=1ECA 1ECC= 1ECD=1ECC 1ECE= 1ECF=1ECE 1ED0= 1ED1=1ED0 1ED2= 1ED3=1ED2 1ED4=
1ED5=1ED4 1ED6= 1ED7=1ED6 1ED8= 1ED9=1ED8 1EDA= 1EDB=1EDA 1EDC= 1EDD=1EDC 1EDE= 1EDF=1EDE 1EE0=
1EE1=1EE0 1EE2= 1EE3=1EE2 1EE4= 1EE5=1EE4 1EE6= 1EE7=1EE6 1EE8= 1EE9=1EE8 1EEA= 1EEB=1EEA 1EEC=
1EED=1EEC 1EEE= 1EEF=1EEE 1EF0= 1EF1=1EF0 1EF2= 1EF3=1EF2 1EF4= 1EF5=1EF4 1EF6= 1EF7=1EF6 1EF8=
1EF9=1EF8 1EFA= 1EFB=1EFA 1EFC= 1EFD=1EFC 1EFE= 1EFF=1EFE 1F00=1F08 1F08= 1F10=1F18 1F16=
1F20=1F28 1F28= 1F30=1F38 1F38= 1F40=1F48 1F46= 1F50=3A5+313 1F51=1F59 1F52=3A5+313+300
1F53=1F5B 1F54=3A5+313+301 1F55=1F5D 1F56=3A5+313+342 1F57=1F5F 1F58= 1F60=1F68 1F68= 1F70=1FBA
1F72=1FC8 1F76=1FDA 1F78=1FF8 1F7A=1FEA 1F7C=1FFA 1F7E= 1F80=1F08+399 1F81=1F09+399
1F82=1F0A+399 1F83=1F0B+399 1F84=1F0C+399 1F85=1F0D+399 1F86=1F0E+399 1F87=1F0F+399
1F88=1F08+399 1F89=1F09+399 1F8A=1F0A+399 1F8B=1F0B+399 1F8C=1F0C+399 1F8D=1F0D+399
1F8E=1F0E+399 1F8F=1F0F+399 1F90=1F28+399 1F91=1F29+399 1F92=1F2A+399 1F93=1F2B+399
1F94=1F2C+399 1F95=1F2D+399 1F96=1F2E+399 1F97=1F2F+399 1F98=1F28+399 1F99=1F29+399
1F9A=1F2A+399 1F9B=1F2B+399 1F9C=1F2C+399 1F9D=1F2D+399 1F9E=1F2E+399 1F9F=1F2F+399
1FA0=1F68+399 1FA1=1F69+399 1FA2=1F6A+399 1FA3=1F6B+399 1FA4=1F6C+399 1FA5=1F6D+399
1FA6=1F6E+399 1FA7=1F6F+399 1FA8=1F68+399 1FA9=1F69+399 1FAA=1F6A+399 1FAB=1F6B+399
1FAC=1F6C+399 1FAD=1F6D+399 1FAE=1F6E+399 1FAF=1F6F+399 1FB0=1FB8 1FB2=1FBA+399 1FB3=391+399
1FB4=386+399 1FB5= 1FB6=391+342 1FB7=391+342+399 1FB8= 1FBC=391+399 1FBD= 1FBE=399 1FBF=
1FC2=1FCA+399 1FC3=397+399 1FC4=389+399 1FC5= 1FC6=397+342 1FC7=397+342+399 1FC8= 1FCC=397+399
1FCD= 1FD0=1FD8 1FD2=399+308+300 1FD3=399+308+301 1FD4= 1FD6=399+342 1FD7=399+308+342 1FD8=
1FE0=1FE8 1FE2=3A5+308+300 1FE3=3A5+308+301 1FE4=3A1+313 1FE5=1FEC 1FE6=3A5+342 1FE7=3A5+308+342
1FE8= 1FF2=1FFA+399 1FF3=3A9+399 1FF4=38F+399 1FF5= 1FF6=3A9+342 1FF7=3A9+342+399 1FF8=
1FFC=3A9+399 1FFD= 214E=2132 214F= 2170=2160 2180= 2184=2183 2185= 24D0=24B6 24EA= 2C30=2C00
2C60= 2C61=2C60 2C62= 2C65=23A 2C66=23E 2C67= 2C68=2C67 2C69= 2C6A=2C69 2C6B= 2C6C=2C6B 2C6D=
2C73=2C72 2C74= 2C76=2C75 2C77= 2C81=2C80 2C82= 2C83=2C82 2C84= 2C85=2C84 2C86= 2C87=2C86 2C88=
2C89=2C88 2C8A= 2C8B=2C8A 2C8C= 2C8D=2C8C 2C8E= 2C8F=2C8E 2C90= 2C91=2C90 2C92= 2C93=2C92 2C94=
2C95=2C94 2C96= 2C97=2C96 2C98= 2C99=2C98 2C9A= 2C9B=2C9A 2C9C= 2C9D=2C9C 2C9E= 2C9F=2C9E 2CA0=
2CA1=2CA0 2CA2= 2CA3=2CA2 2CA4= 2CA5=2CA4 2CA6= 2CA7=2CA6 2CA8= 2CA9=2CA8 2CAA= 2CAB=2CAA 2CAC=
2CAD=2CAC 2CAE= 2CAF=2CAE 2CB0= 2CB1=2CB0 2CB2= 2CB3=2CB2 2CB4= 2CB5=2CB4 2CB6= 2CB7=2CB6 2CB8=
2CB9=2CB8 2CBA= 2CBB=2CBA 2CBC= 2CBD=2CBC 2CBE= 2CBF=2CBE 2CC0= 2CC1=2CC0 2CC2= 2CC3=2CC2 2CC4=
2CC5=2CC4 2CC6= 2CC7=2CC6 2CC8= 2CC9=2CC8 2CCA= 2CCB=2CCA 2CCC= 2CCD=2CCC 2CCE= 2CCF=2CCE 2CD0=
2CD1=2CD0 2CD2= 2CD3=2CD2 2CD4= 2CD5=2CD4 2CD6= 2CD7=2CD6 2CD8= 2CD9=2CD8 2CDA= 2CDB=2CDA 2CDC=
2CDD=2CDC 2CDE= 2CDF=2CDE 2CE0= 2CE1=2CE0 2CE2= 2CE3=2CE2 2CE4= 2CEC=2CEB 2CED= 2CEE=2CED 2CEF=
2CF3=2CF2 2CF4= 2D00=10A0 2D26= 2D27=10C7 2D28= 2D2D=10CD 2D2E= A641=A640 A642= A643=A642 A644=
A645=A644 A646= A647=A646 A648= A649=A648 A64A= A64B=A64A A64C= A64D=A64C A64E= A64F=A64E A650=
A651=A650 A652= A653=A652 A654= A655=A654 A656= A657=A656 A658= A659=A658 A65A= A65B=A65A A65C=
A65D=A65C A65E= A65F=A65E A660= A661=A660 A662= A663=A662 A664= A665=A664 A666= A667=A666 A668=
A669=A668 A66A= A66B=A66A A66C= A66D=A66C A66E= A681=A680 A682= A683=A682 A684= A685=A684 A686=
A687=A686 A688= A689=A688 A68A= A68B=A68A A68C= A68D=A68C A68E= A68F=A68E A690= A691=A690 A692=
A693=A692 A694= A695=A694 A696= A697=A696 A698= A699=A698 A69A= A69B=A69A A69C= A723=A722 A724=
A725=A724 A726= A727=A726 A728= A729=A728 A72A= A72B=A72A A72C= A72D=A72C A72E= A72F=A72E A730=
A733=A732 A734= A735=A734 A736= A737=A736 A738= A739=A738 A73A= A73B=A73A A73C= A73D=A73C A73E=
A73F=A73E A740= A741=A740 A742= A743=A742 A744= A745=A744 A746= A747=A746 A748= A749=A748 A74A=
A74B=A74A A74C= A74D=A74C A74E= A74F=A74E A750= A751=A750 A752= A753=A752 A754= A755=A754 A756=
A757=A756 A758= A759=A758 A75A= A75B=A75A A75C= A75D=A75C A75E= A75F=A75E A760= A761=A760 A762=
A763=A762 A764= A765=A764 A766= A767=A766 A768= A769=A768 A76A= A76B=A76A A76C= A76D=A76C A76E=
A76F=A76E A770= A77A=A779 A77B= A77C=A77B A77D= A77F=A77E A780= A781=A780 A782= A783=A782 A784=
A785=A784 A786= A787=A786 A788= A78C=A78B A78D= A791=A790 A792= A793=A792 A794=A7C4 A795=
A797=A796 A798= A799=A798 A79A= A79B=A79A A79C= A79D=A79C A79E= A79F=A79E A7A0= A7A1=A7A0 A7A2=
A7A3=A7A2 A7A4= A7A5=A7A4 A7A6= A7A7=A7A6 A7A8= A7A9=A7A8 A7AA= A7B5=A7B4 A7B6= A7B7=A7B6 A7B8=
A7B9=A7B8 A7BA= A7BB=A7BA A7BC= A7BD=A7BC A7BE= A7BF=A7BE A7C0= A7C1=A7C0 A7C2= A7C3=A7C2 A7C4=
A7C8=A7C7 A7C9= A7CA=A7C9 A7CB= A7D1=A7D0 A7D2= A7D7=A7D6 A7D8= A7D9=A7D8 A7DA= A7F6=A7F5 A7F7=
AB53=A7B3 AB54= AB70=13A0 ABC0= FB00=46+46 FB01=46+49 FB02=46+4C FB03=46+46+49 FB04=46+46+4C
FB05=53+54 FB06=53+54 FB07= FB13=544+546 FB14=544+535 FB15=544+53B FB16=54E+546 FB17=544+53D
FB18= FF41=FF21 FF5B= 10428=10400 10450= 104D8=104B0 104FC= 10597=10570 105A2= 105A3=1057C
105B2= 105B3=1058C 105BA= 105BB=10594 105BD= 10CC0=10C80 10CF3= 118C0=118A0 118E0= 16E60=16E40
16E80= 1E922=1E900 1E944="

/-- The code points of the property `Cased`. -/
def casedSet : CodeSet := CodeSet.ofHex
  "41 5B 61 7B AA AB B5 B6 BA BB C0 D7 D8 F7 F8 1BB 1BC 1C0 1C4 294 295 2B9 2C0 2C2 2E0 2E5 345 346
370 374 376 378 37A 37E 37F 380 386 387 388 38B 38C 38D 38E 3A2 3A3 3F6 3F7 482 48A 530 531 557
560 589 10A0 10C6 10C7 10C8 10CD 10CE 10D0 10FB 10FC 1100 13A0 13F6 13F8 13FE 1C80 1C89 1C90
1CBB 1CBD 1CC0 1D00 1DC0 1E00 1F16 1F18 1F1E 1F20 1F46 1F48 1F4E 1F50 1F58 1F59 1F5A 1F5B 1F5C
1F5D 1F5E 1F5F 1F7E 1F80 1FB5 1FB6 1FBD 1FBE 1FBF 1FC2 1FC5 1FC6 1FCD 1FD0 1FD4 1FD6 1FDC 1FE0
1FED 1FF2 1FF5 1FF6 1FFD 2071 2072 207F 2080 2090 209D 2102 2103 2107 2108 210A 2114 2115 2116
2119 211E 2124 2125 2126 2127 2128 2129 212A 212E 212F 2135 2139 213A 213C 2140 2145 214A 214E
214F 2160 2180 2183 2185 24B6 24EA 2C00 2CE5 2CEB 2CEF 2CF2 2CF4 2D00 2D26 2D27 2D28 2D2D 2D2E
A640 A66E A680 A69E A722 A788 A78B A78F A790 A7CB A7D0 A7D2 A7D3 A7D4 A7D5 A7DA A7F2 A7F7 A7F8
A7FB AB30 AB5B AB5C AB6A AB70 ABC0 FB00 FB07 FB13 FB18 FF21 FF3B FF41 FF5B 10400 10450 104B0
104D4 104D8 104FC 10570 1057B 1057C 1058B 1058C 10593 10594 10596 10597 105A2 105A3 105B2 105B3
105BA 105BB 105BD 10780 10781 10783 10786 10787 107B1 107B2 107BB 10C80 10CB3 10CC0 10CF3 118A0
118E0 16E40 16E80 1D400 1D455 1D456 1D49D 1D49E 1D4A0 1D4A2 1D4A3 1D4A5 1D4A7 1D4A9 1D4AD 1D4AE
1D4BA 1D4BB 1D4BC 1D4BD 1D4C4 1D4C5 1D506 1D507 1D50B 1D50D 1D515 1D516 1D51D 1D51E 1D53A 1D53B
1D53F 1D540 1D545 1D546 1D547 1D54A 1D551 1D552 1D6A6 1D6A8 1D6C1 1D6C2 1D6DB 1D6DC 1D6FB 1D6FC
1D715 1D716 1D735 1D736 1D74F 1D750 1D76F 1D770 1D789 1D78A 1D7A9 1D7AA 1D7C3 1D7C4 1D7CC 1DF00
1DF0A 1DF0B 1DF1F 1DF25 1DF2B 1E030 1E06E 1E900 1E944 1F130 1F14A 1F150 1F16A 1F170 1F18A"

/-- The code points of the property `Case_Ignorable`. -/
def caseIgnorableSet : CodeSet := CodeSet.ofHex
  "27 28 2E 2F 3A 3B 5E 5F 60 61 A8 A9 AD AE AF B0 B4 B5 B7 B9 2B0 370 374 376 37A 37B 384 386 387
388 483 48A 559 55A 55F 560 591 5BE 5BF 5C0 5C1 5C3 5C4 5C6 5C7 5C8 5F4 5F5 600 606 610 61B 61C
61D 640 641 64B 660 670 671 6D6 6DE 6DF 6E9 6EA 6EE 70F 710 711 712 730 74B 7A6 7B1 7EB 7F6 7FA
7FB 7FD 7FE 816 82E 859 85C 888 889 890 892 898 8A0 8C9 903 93A 93B 93C 93D 941 949 94D 94E 951
958 962 964 971 972 981 982 9BC 9BD 9C1 9C5 9CD 9CE 9E2 9E4 9FE 9FF A01 A03 A3C A3D A41 A43 A47
A49 A4B A4E A51 A52 A70 A72 A75 A76 A81 A83 ABC ABD AC1 AC6 AC7 AC9 ACD ACE AE2 AE4 AFA B00 B01
B02 B3C B3D B3F B40 B41 B45 B4D B4E B55 B57 B62 B64 B82 B83 BC0 BC1 BCD BCE C00 C01 C04 C05 C3C
C3D C3E C41 C46 C49 C4A C4E C55 C57 C62 C64 C81 C82 CBC CBD CBF CC0 CC6 CC7 CCC CCE CE2 CE4 D00
D02 D3B D3D D41 D45 D4D D4E D62 D64 D81 D82 DCA DCB DD2 DD5 DD6 DD7 E31 E32 E34 E3B E46 E4F EB1
EB2 EB4 EBD EC6 EC7 EC8 ECF F18 F1A F35 F36 F37 F38 F39 F3A F71 F7F F80 F85 F86 F88 F8D F98 F99
FBD FC6 FC7 102D 1031 1032 1038 1039 103B 103D 103F 1058 105A 105E 1061 1071 1075 1082 1083 1085
1087 108D 108E 109D 109E 10FC 10FD 135D 1360 1712 1715 1732 1734 1752 1754 1772 1774 17B4 17B6
17B7 17BE 17C6 17C7 17C9 17D4 17D7 17D8 17DD 17DE 180B 1810 1843 1844 1885 1887 18A9 18AA 1920
1923 1927 1929 1932 1933 1939 193C 1A17 1A19 1A1B 1A1C 1A56 1A57 1A58 1A5F 1A60 1A61 1A62 1A63
1A65 1A6D 1A73 1A7D 1A7F 1A80 1AA7 1AA8 1AB0 1ACF 1B00 1B04 1B34 1B35 1B36 1B3B 1B3C 1B3D 1B42
1B43 1B6B 1B74 1B80 1B82 1BA2 1BA6 1BA8 1BAA 1BAB 1BAE 1BE6 1BE7 1BE8 1BEA 1BED 1BEE 1BEF 1BF2
1C2C 1C34 1C36 1C38 1C78 1C7E 1CD0 1CD3 1CD4 1CE1 1CE2 1CE9 1CED 1CEE 1CF4 1CF5 1CF8 1CFA 1D2C
1D6B 1D78 1D79 1D9B 1E00 1FBD 1FBE 1FBF 1FC2 1FCD 1FD0 1FDD 1FE0 1FED 1FF0 1FFD 1FFF 200B 2010
2018 201A 2024 2025 2027 2028 202A 202F 2060 2065 2066 2070 2071 2072 207F 2080 2090 209D 20D0
20F1 2C7C 2C7E 2CEF 2CF2 2D6F 2D70 2D7F 2D80 2DE0 2E00 2E2F 2E30 3005 3006 302A 302E 3031 3036
303B 303C 3099 309F 30FC 30FF A015 A016 A4F8 A4FE A60C A60D A66F A673 A674 A67E A67F A680 A69C
A6A0 A6F0 A6F2 A700 A722 A770 A771 A788 A78B A7F2 A7F5 A7F8 A7FA A802 A803 A806 A807 A80B A80C
A825 A827 A82C A82D A8C4 A8C6 A8E0 A8F2 A8FF A900 A926 A92E A947 A952 A980 A983 A9B3 A9B4 A9B6
A9BA A9BC A9BE A9CF A9D0 A9E5 A9E7 AA29 AA2F AA31 AA33 AA35 AA37 AA43 AA44 AA4C AA4D AA70 AA71
AA7C AA7D AAB0 AAB1 AAB2 AAB5 AAB7 AAB9 AABE AAC0 AAC1 AAC2 AADD AADE AAEC AAEE AAF3 AAF5 AAF6
AAF7 AB5B AB60 AB69 AB6C ABE5 ABE6 ABE8 ABE9 ABED ABEE FB1E FB1F FBB2 FBC3 FE00 FE10 FE13 FE14
FE20 FE30 FE52 FE53 FE55 FE56 FEFF FF00 FF07 FF08 FF0E FF0F FF1A FF1B FF3E FF3F FF40 FF41 FF70
FF71 FF9E FFA0 FFE3 FFE4 FFF9 FFFC 101FD 101FE 102E0 102E1 10376 1037B 10780 10786 10787 107B1
107B2 107BB 10A01 10A04 10A05 10A07 10A0C 10A10 10A38 10A3B 10A3F 10A40 10AE5 10AE7 10D24 10D28
10EAB 10EAD 10EFD 10F00 10F46 10F51 10F82 10F86 11001 11002 11038 11047 11070 11071 11073 11075
1107F 11082 110B3 110B7 110B9 110BB 110BD 110BE 110C2 110C3 110CD 110CE 11100 11103 11127 1112C
1112D 11135 11173 11174 11180 11182 111B6 111BF 111C9 111CD 111CF 111D0 1122F 11232 11234 11235
11236 11238 1123E 1123F 11241 11242 112DF 112E0 112E3 112EB 11300 11302 1133B 1133D 11340 11341
11366 1136D 11370 11375 11438 11440 11442 11445 11446 11447 1145E 1145F 114B3 114B9 114BA 114BB
114BF 114C1 114C2 114C4 115B2 115B6 115BC 115BE 115BF 115C1 115DC 115DE 11633 1163B 1163D 1163E
1163F 11641 116AB 116AC 116AD 116AE 116B0 116B6 116B7 116B8 1171D 11720 11722 11726 11727 1172C
1182F 11838 11839 1183B 1193B 1193D 1193E 1193F 11943 11944 119D4 119D8 119DA 119DC 119E0 119E1
11A01 11A0B 11A33 11A39 11A3B 11A3F 11A47 11A48 11A51 11A57 11A59 11A5C 11A8A 11A97 11A98 11A9A
11C30 11C37 11C38 11C3E 11C3F 11C40 11C92 11CA8 11CAA 11CB1 11CB2 11CB4 11CB5 11CB7 11D31 11D37
11D3A 11D3B 11D3C 11D3E 11D3F 11D46 11D47 11D48 11D90 11D92 11D95 11D96 11D97 11D98 11EF3 11EF5
11F00 11F02 11F36 11F3B 11F40 11F41 11F42 11F43 13430 13441 13447 13456 16AF0 16AF5 16B30 16B37
16B40 16B44 16F4F 16F50 16F8F 16FA0 16FE0 16FE2 16FE3 16FE5 1AFF0 1AFF4 1AFF5 1AFFC 1AFFD 1AFFF
1BC9D 1BC9F 1BCA0 1BCA4 1CF00 1CF2E 1CF30 1CF47 1D167 1D16A 1D173 1D183 1D185 1D18C 1D1AA 1D1AE
1D242 1D245 1DA00 1DA37 1DA3B 1DA6D 1DA75 1DA76 1DA84 1DA85 1DA9B 1DAA0 1DAA1 1DAB0 1E000 1E007
1E008 1E019 1E01B 1E022 1E023 1E025 1E026 1E02B 1E030 1E06E 1E08F 1E090 1E130 1E13E 1E2AE 1E2AF
1E2EC 1E2F0 1E4EB 1E4F0 1E8D0 1E8D7 1E944 1E94C 1F3FB 1F400 E0001 E0002 E0020 E0080 E0100 E01F0"

def isCased (c : Char) : Bool := casedSet.contains c.toNat

def isCaseIgnorable (c : Char) : Bool := caseIgnorableSet.contains c.toNat

/-- Whether the first character that is not case-ignorable is a cased letter. -/
def meetsCased (cs : List Char) : Bool :=
  match cs.dropWhile isCaseIgnorable with
  | [] => false
  | c :: _ => isCased c

/-- The small sigma that stands for a capital one between `before`, nearest first, and `after`. -/
def smallSigma (before after : List Char) : Char :=
  if meetsCased before && !meetsCased after then 'ς' else 'σ'

/-- The rest of a text in lower case, what precedes it given nearest first. -/
def lowerAfter (before : List Char) : List Char → List Char
  | [] => []
  | c :: cs =>
    (if c = 'Σ' then [smallSigma before cs] else lowerMap.apply c) ++ lowerAfter (c :: before) cs

def lower (s : String) : String := String.ofList (lowerAfter [] s.toList)

def upper (s : String) : String := String.ofList (s.toList.flatMap upperMap.apply)

end Harvest.Text
