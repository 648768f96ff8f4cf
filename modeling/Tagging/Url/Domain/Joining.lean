import Tagging.Text.Composite
import Tagging.Text.Table

/-!
# Joiners and marks

A label cannot begin with a mark, and an invisible joiner is allowed only where it changes how its
neighbours are written.

* `Joining`, `joining` — how a letter joins its neighbours;
* `isMark` — marks that belong to the character before them;
* `joinersFit` — labels whose joiners are all allowed.
-/

namespace Tagging.Url

/-- How a letter joins its neighbours. -/
inductive Joining where
  /-- Not at all. -/
  | none
  /-- The one behind it. -/
  | behind
  /-- Both. -/
  | both
  /-- The one before it. -/
  | before
  /-- It is passed over. -/
  | transparent
  deriving DecidableEq, Repr, Inhabited

/-- First character, last character and how they join, for characters that names can hold. -/
def joiningRanges : List (List Nat) := Text.readTable
  "300.36F.4 483.489.4 591.5BD.4 5BF.5BF.4 5C1.5C2.4 5C4.5C5.4 5C7.5C7.4 610.61A.4 620.620.2
622.625.3 626.626.2 627.627.3 628.628.2 629.629.3 62A.62E.2 62F.632.3 633.63F.2 641.647.2
648.648.3 649.64A.2 64B.65F.4 66E.66F.2 670.670.4 671.673.3 679.687.2 688.699.3 69A.6BF.2
6C0.6C0.3 6C1.6C2.2 6C3.6CB.3 6CC.6CC.2 6CD.6CD.3 6CE.6CE.2 6CF.6CF.3 6D0.6D1.2 6D2.6D3.3
6D5.6D5.3 6D6.6DC.4 6DF.6E4.4 6E7.6E8.4 6EA.6ED.4 6EE.6EF.3 6FA.6FC.2 6FF.6FF.2 710.710.3
711.711.4 712.714.2 715.719.3 71A.71D.2 71E.71E.3 71F.727.2 728.728.3 729.729.2 72A.72A.3
72B.72B.2 72C.72C.3 72D.72E.2 72F.72F.3 730.74A.4 74D.74D.3 74E.758.2 759.75B.3 75C.76A.2
76B.76C.3 76D.770.2 771.771.3 772.772.2 773.774.3 775.777.2 778.779.3 77A.77F.2 7A6.7B0.4
7CA.7EA.2 7EB.7F3.4 7FD.7FD.4 816.819.4 81B.823.4 825.827.4 829.82D.4 840.840.3 841.845.2
846.847.3 848.848.2 849.849.3 84A.853.2 854.854.3 855.855.2 856.858.3 859.85B.4 860.860.2
862.865.2 867.867.3 868.868.2 869.882.3 886.886.2 889.88D.2 88E.88E.3 88F.88F.2 897.89F.4
8A0.8A9.2 8AA.8AC.3 8AE.8AE.3 8AF.8B0.2 8B1.8B2.3 8B3.8B8.2 8B9.8B9.3 8BA.8C8.2 8CA.902.4
93A.93A.4 93C.93C.4 941.948.4 94D.94D.4 951.957.4 962.963.4 981.981.4 9BC.9BC.4 9C1.9C4.4
9CD.9CD.4 9E2.9E3.4 9FE.A02.4 A3C.A3C.4 A41.A51.4 A70.A71.4 A75.A75.4 A81.A82.4 ABC.ABC.4
AC1.AC8.4 ACD.ACD.4 AE2.AE3.4 AFA.B01.4 B3C.B3C.4 B3F.B3F.4 B41.B44.4 B4D.B56.4 B62.B63.4
B82.B82.4 BC0.BC0.4 BCD.BCD.4 C00.C00.4 C04.C04.4 C3C.C3C.4 C3E.C40.4 C46.C56.4 C62.C63.4
C81.C81.4 CBC.CBC.4 CBF.CBF.4 CC6.CC6.4 CCC.CCD.4 CE2.CE3.4 D00.D01.4 D3B.D3C.4 D41.D44.4
D4D.D4D.4 D62.D63.4 D81.D81.4 DCA.DCA.4 DD2.DD6.4 E31.E31.4 E34.E3A.4 E47.E4E.4 EB1.EB1.4
EB4.EBC.4 EC8.ECE.4 F18.F19.4 F35.F35.4 F37.F37.4 F39.F39.4 F71.F7E.4 F80.F84.4 F86.F87.4
F8D.FBC.4 FC6.FC6.4 102D.1030.4 1032.1037.4 1039.103A.4 103D.103E.4 1058.1059.4 105E.1060.4
1071.1074.4 1082.1082.4 1085.1086.4 108D.108D.4 109D.109D.4 135D.135F.4 1712.1714.4 1732.1733.4
1752.1753.4 1772.1773.4 17B7.17BD.4 17C6.17C6.4 17C9.17D3.4 17DD.17DD.4 1807.1807.2 1820.1878.2
1885.1886.4 1887.18A8.2 18A9.18A9.4 18AA.18AA.2 1920.1922.4 1927.1928.4 1932.1932.4 1939.193B.4
1A17.1A18.4 1A1B.1A1B.4 1A56.1A56.4 1A58.1A60.4 1A62.1A62.4 1A65.1A6C.4 1A73.1A7F.4 1AB0.1B03.4
1B34.1B34.4 1B36.1B3A.4 1B3C.1B3C.4 1B42.1B42.4 1B6B.1B73.4 1B80.1B81.4 1BA2.1BA5.4 1BA8.1BA9.4
1BAB.1BAD.4 1BE6.1BE6.4 1BE8.1BE9.4 1BED.1BED.4 1BEF.1BF1.4 1C2C.1C33.4 1C36.1C37.4 1CD0.1CD2.4
1CD4.1CE0.4 1CE2.1CE8.4 1CED.1CED.4 1CF4.1CF4.4 1CF8.1CF9.4 1DC0.1DFF.4 20D0.20F0.4 2CEF.2CF1.4
2D7F.2D7F.4 2DE0.2DFF.4 302A.302D.4 3099.309A.4 A66F.A672.4 A674.A67D.4 A69E.A69F.4 A6F0.A6F1.4
A802.A802.4 A806.A806.4 A80B.A80B.4 A825.A826.4 A82C.A82C.4 A840.A871.2 A872.A872.1 A8C4.A8C5.4
A8E0.A8F1.4 A8FF.A8FF.4 A926.A92D.4 A947.A951.4 A980.A982.4 A9B3.A9B3.4 A9B6.A9B9.4 A9BC.A9BD.4
A9E5.A9E5.4 AA29.AA2E.4 AA31.AA32.4 AA35.AA36.4 AA43.AA43.4 AA4C.AA4C.4 AA7C.AA7C.4 AAB0.AAB0.4
AAB2.AAB4.4 AAB7.AAB8.4 AABE.AABF.4 AAC1.AAC1.4 AAEC.AAED.4 AAF6.AAF6.4 ABE5.ABE5.4 ABE8.ABE8.4
ABED.ABED.4 FB1E.FB1E.4 FE20.FE2F.4 101FD.101FD.4 102E0.102E0.4 10376.1037A.4 10A01.10A0F.4
10A38.10A3F.4 10AC0.10AC4.2 10AC5.10AC5.3 10AC7.10AC7.3 10AC9.10ACA.3 10ACD.10ACD.1
10ACE.10AD2.3 10AD3.10AD6.2 10AD7.10AD7.1 10AD8.10ADC.2 10ADD.10ADD.3 10ADE.10AE0.2
10AE1.10AE1.3 10AE4.10AE4.3 10AE5.10AE6.4 10AEB.10AEE.2 10AEF.10AEF.3 10B80.10B80.2
10B81.10B81.3 10B82.10B82.2 10B83.10B85.3 10B86.10B88.2 10B89.10B89.3 10B8A.10B8B.2
10B8C.10B8C.3 10B8D.10B8D.2 10B8E.10B8F.3 10B90.10B90.2 10B91.10B91.3 10BA9.10BAC.3
10BAD.10BAE.2 10D00.10D00.1 10D01.10D21.2 10D22.10D22.3 10D23.10D23.2 10D24.10D27.4
10D69.10D6D.4 10EAB.10EAC.4 10EC2.10EC2.3 10EC3.10EC4.2 10EC6.10EC7.2 10EFA.10EFF.4
10F30.10F32.2 10F33.10F33.3 10F34.10F44.2 10F46.10F50.4 10F51.10F53.2 10F54.10F54.3
10F70.10F73.2 10F74.10F75.3 10F76.10F81.2 10F82.10F85.4 10FB0.10FB0.2 10FB2.10FB3.2
10FB4.10FB6.3 10FB8.10FB8.2 10FB9.10FBA.3 10FBB.10FBC.2 10FBD.10FBD.3 10FBE.10FBF.2
10FC1.10FC1.2 10FC2.10FC3.3 10FC4.10FC4.2 10FC9.10FC9.3 10FCA.10FCA.2 10FCB.10FCB.1
11001.11001.4 11038.11046.4 11070.11070.4 11073.11074.4 1107F.11081.4 110B3.110B6.4
110B9.110BA.4 110C2.110C2.4 11100.11102.4 11127.1112B.4 1112D.11134.4 11173.11173.4
11180.11181.4 111B6.111BE.4 111C9.111CC.4 111CF.111CF.4 1122F.11231.4 11234.11234.4
11236.11237.4 1123E.1123E.4 11241.11241.4 112DF.112DF.4 112E3.112EA.4 11300.11301.4
1133B.1133C.4 11340.11340.4 11366.11374.4 113BB.113C0.4 113CE.113CE.4 113D0.113D0.4
113D2.113D2.4 113E1.113E2.4 11438.1143F.4 11442.11444.4 11446.11446.4 1145E.1145E.4
114B3.114B8.4 114BA.114BA.4 114BF.114C0.4 114C2.114C3.4 115B2.115B5.4 115BC.115BD.4
115BF.115C0.4 115DC.115DD.4 11633.1163A.4 1163D.1163D.4 1163F.11640.4 116AB.116AB.4
116AD.116AD.4 116B0.116B5.4 116B7.116B7.4 1171D.1171D.4 1171F.1171F.4 11722.11725.4
11727.1172B.4 1182F.11837.4 11839.1183A.4 1193B.1193C.4 1193E.1193E.4 11943.11943.4
119D4.119DB.4 119E0.119E0.4 11A01.11A0A.4 11A33.11A38.4 11A3B.11A3E.4 11A47.11A47.4
11A51.11A56.4 11A59.11A5B.4 11A8A.11A96.4 11A98.11A99.4 11B60.11B60.4 11B62.11B64.4
11B66.11B66.4 11C30.11C3D.4 11C3F.11C3F.4 11C92.11CA7.4 11CAA.11CB0.4 11CB2.11CB3.4
11CB5.11CB6.4 11D31.11D45.4 11D47.11D47.4 11D90.11D91.4 11D95.11D95.4 11D97.11D97.4
11EF3.11EF4.4 11F00.11F01.4 11F36.11F3A.4 11F40.11F40.4 11F42.11F42.4 11F5A.11F5A.4
13440.13440.4 13447.13455.4 1611E.16129.4 1612D.1612F.4 16AF0.16AF4.4 16B30.16B36.4
16F4F.16F4F.4 16F8F.16F92.4 16FE4.16FE4.4 1BC9D.1BC9E.4 1CF00.1CF46.4 1D167.1D169.4
1D17B.1D182.4 1D185.1D18B.4 1D1AA.1D1AD.4 1D242.1D244.4 1DA00.1DA36.4 1DA3B.1DA6C.4
1DA75.1DA75.4 1DA84.1DA84.4 1DA9B.1DAAF.4 1E000.1E08F.4 1E130.1E136.4 1E2AE.1E2AE.4
1E2EC.1E2EF.4 1E4EC.1E4EF.4 1E5EE.1E5EF.4 1E6E3.1E6E3.4 1E6E6.1E6E6.4 1E6EE.1E6EF.4
1E6F5.1E6F5.4 1E8D0.1E8D6.4 1E922.1E943.2 1E944.1E94B.4"

/-- How a character that a name can hold joins its neighbours. -/
def joining (c : Char) : Joining :=
  match Text.tableClass joiningRanges c.toNat with
  | 1 => .behind
  | 2 => .both
  | 3 => .before
  | 4 => .transparent
  | _ => .none

/-- Marks, among the characters that names can hold. -/
def markRanges : List (Nat × Nat) := Text.readRanges
  "300.36F 483.489 591.5BD 5BF 5C1.5C2 5C4.5C5 5C7 610.61A 64B.65F 670 6D6.6DC 6DF.6E4 6E7.6E8
6EA.6ED 711 730.74A 7A6.7B0 7EB.7F3 7FD 816.819 81B.823 825.827 829.82D 859.85B 897.89F 8CA.903
93A.93C 93E.94F 951.957 962.963 981.983 9BC 9BE.9CD 9D7 9E2.9E3 9FE.A03 A3C.A51 A70.A71 A75
A81.A83 ABC ABE.ACD AE2.AE3 AFA.B03 B3C B3E.B57 B62.B63 B82 BBE.BCD BD7 C00.C04 C3C C3E.C56
C62.C63 C81.C83 CBC CBE.CD6 CE2.CE3 CF3.D03 D3B.D3C D3E.D4D D57 D62.D63 D81.D83 DCA.DDF DF2.DF3
E31 E34.E3A E47.E4E EB1 EB4.EBC EC8.ECE F18.F19 F35 F37 F39 F3E.F3F F71.F84 F86.F87 F8D.FBC FC6
102B.103E 1056.1059 105E.1060 1062.1064 1067.106D 1071.1074 1082.108D 108F 109A.109D 135D.135F
1712.1715 1732.1734 1752.1753 1772.1773 17B6.17D3 17DD 1885.1886 18A9 1920.193B 1A17.1A1B
1A55.1A7F 1AB0.1B04 1B34.1B44 1B6B.1B73 1B80.1B82 1BA1.1BAD 1BE6.1BF3 1C24.1C37 1CD0.1CD2
1CD4.1CE8 1CED 1CF4 1CF7.1CF9 1DC0.1DFF 20D0.20F0 2CEF.2CF1 2D7F 2DE0.2DFF 302A.302F 3099.309A
A66F.A672 A674.A67D A69E.A69F A6F0.A6F1 A802 A806 A80B A823.A827 A82C A880.A881 A8B4.A8C5
A8E0.A8F1 A8FF A926.A92D A947.A953 A980.A983 A9B3.A9C0 A9E5 AA29.AA36 AA43 AA4C.AA4D AA7B.AA7D
AAB0 AAB2.AAB4 AAB7.AAB8 AABE.AABF AAC1 AAEB.AAEF AAF5.AAF6 ABE3.ABEA ABEC.ABED FB1E FE20.FE2F
101FD 102E0 10376.1037A 10A01.10A0F 10A38.10A3F 10AE5.10AE6 10D24.10D27 10D69.10D6D 10EAB.10EAC
10EFA.10EFF 10F46.10F50 10F82.10F85 11000.11002 11038.11046 11070 11073.11074 1107F.11082
110B0.110BA 110C2 11100.11102 11127.11134 11145.11146 11173 11180.11182 111B3.111C0 111C9.111CC
111CE.111CF 1122C.11237 1123E 11241 112DF.112EA 11300.11303 1133B.1133C 1133E.1134D 11357
11362.11374 113B8.113D0 113D2 113E1.113E2 11435.11446 1145E 114B0.114C3 115AF.115C0 115DC.115DD
11630.11640 116AB.116B7 1171D.1172B 1182C.1183A 11930.1193E 11940 11942.11943 119D1.119E0 119E4
11A01.11A0A 11A33.11A39 11A3B.11A3E 11A47 11A51.11A5B 11A8A.11A99 11B60.11B67 11C2F.11C3F
11C92.11CB6 11D31.11D45 11D47 11D8A.11D97 11EF3.11EF6 11F00.11F01 11F03 11F34.11F42 11F5A 13440
13447.13455 1611E.1612F 16AF0.16AF4 16B30.16B36 16F4F 16F51.16F92 16FE4.16FF1 1BC9D.1BC9E
1CF00.1CF46 1D165.1D169 1D16D.1D182 1D185.1D18B 1D1AA.1D1AD 1D242.1D244 1DA00.1DA36 1DA3B.1DA6C
1DA75 1DA84 1DA9B.1DAAF 1E000.1E08F 1E130.1E136 1E2AE 1E2EC.1E2EF 1E4EC.1E4EF 1E5EE.1E5EF 1E6E3
1E6E6 1E6EE.1E6EF 1E6F5 1E8D0.1E8D6 1E944.1E94A"

/-- Does the character belong to the one before it? -/
def isMark (c : Char) : Bool := Text.inRanges c.toNat markRanges

/-- The class of the signs that bind consonants. -/
def viramaClass : Nat := 9

/-- Does the first character that is not passed over join as wanted? -/
def meetsJoining (wanted : Joining) (cs : List Char) : Bool :=
  match cs.dropWhile (fun c => joining c = .transparent) with
  | [] => false
  | c :: _ => joining c = wanted || joining c = .both

/-- Is a joiner allowed between the characters `earlier`, nearest first, and those after it?  It
has to follow a sign that binds consonants; the one that separates letters may also stand between
letters that would join. -/
def joinerFits (c : Char) (earlier later : List Char) : Bool :=
  (match earlier with
    | p :: _ => Text.combiningClass p = viramaClass
    | [] => false) ||
  (c = '\u200c' && meetsJoining .behind earlier && meetsJoining .before later)

/-- Are all joiners allowed, behind the characters `earlier`, nearest first? -/
def joinersFit (earlier : List Char) : List Char → Bool
  | [] => true
  | c :: rest =>
    ((c ≠ '\u200c' && c ≠ '\u200d') || joinerFits c earlier rest) && joinersFit (c :: earlier) rest

end Tagging.Url
