import Tagging.Text.Composite

/-!
# Direction

Names that are written from right to left must not be mixed up with others when they are shown.

* `Direction`, `direction` — the direction of a character, for characters that names can hold;
* `readsRightToLeft` — names with a character that is written from right to left;
* `keepsDirection` — labels that are shown in one piece.
-/

namespace Tagging.Url

/-- Directions of characters. -/
inductive Direction where
  /-- Letters written from left to right. -/
  | left
  /-- Letters written from right to left. -/
  | right
  /-- Digits of the Arabic script. -/
  | arabicDigit
  /-- Digits. -/
  | digit
  /-- Marks, which go with what is before them. -/
  | mark
  /-- Everything else. -/
  | neutral
  deriving DecidableEq, Repr, Inhabited

/-- First character, last character and direction, for all but letters written from left to right. -/
def directionRanges : List (List Nat) := Text.readTable
  "0.2F.5 30.39.3 3A.60.5 7B.D7.5 F7.F7.5 2B9.2BA.5 2C2.2CF.5 2D2.2ED.5 2EF.2FF.5 300.36F.4
375.375.5 3F6.3F6.5 483.489.4 58A.58F.5 591.5BD.4 5BE.5BE.1 5BF.5BF.4 5C0.5C0.1 5C1.5C2.4
5C3.5C3.1 5C4.5C5.4 5C6.5C6.1 5C7.5C7.4 5D0.5F4.1 606.607.5 608.608.1 609.60A.5 60B.60B.1
60C.60C.5 60D.60D.1 60E.60F.5 610.61A.4 61B.64A.1 64B.65F.4 660.669.2 66A.66A.5 66B.66C.2
66D.66F.1 670.670.4 671.6D5.1 6D6.6DC.4 6DE.6DE.5 6DF.6E4.4 6E5.6E6.1 6E7.6E8.4 6E9.6E9.5
6EA.6ED.4 6EE.6EF.1 6F0.6F9.3 6FA.710.1 711.711.4 712.72F.1 730.74A.4 74D.7A5.1 7A6.7B0.4
7B1.7EA.1 7EB.7F3.4 7F4.7F5.1 7F6.7F9.5 7FA.7FA.1 7FD.7FD.4 7FE.815.1 816.819.4 81A.81A.1
81B.823.4 824.824.1 825.827.4 828.828.1 829.82D.4 830.858.1 859.85B.4 85E.88F.1 897.89F.4
8A0.8C9.1 8CA.902.4 93A.93A.4 93C.93C.4 941.948.4 94D.94D.4 951.957.4 962.963.4 981.981.4
9BC.9BC.4 9C1.9C4.4 9CD.9CD.4 9E2.9E3.4 9F2.9F3.5 9FB.9FB.5 9FE.A02.4 A3C.A3C.4 A41.A51.4
A70.A71.4 A75.A75.4 A81.A82.4 ABC.ABC.4 AC1.AC8.4 ACD.ACD.4 AE2.AE3.4 AF1.AF1.5 AFA.B01.4
B3C.B3C.4 B3F.B3F.4 B41.B44.4 B4D.B56.4 B62.B63.4 B82.B82.4 BC0.BC0.4 BCD.BCD.4 BF3.BFA.5
C00.C00.4 C04.C04.4 C3C.C3C.4 C3E.C40.4 C46.C56.4 C62.C63.4 C78.C7E.5 C81.C81.4 CBC.CBC.4
CBF.CBF.4 CC6.CC6.4 CCC.CCD.4 CE2.CE3.4 D00.D01.4 D3B.D3C.4 D41.D44.4 D4D.D4D.4 D62.D63.4
D81.D81.4 DCA.DCA.4 DD2.DD6.4 E31.E31.4 E34.E3A.4 E3F.E3F.5 E47.E4E.4 EB1.EB1.4 EB4.EBC.4
EC8.ECE.4 F18.F19.4 F35.F35.4 F37.F37.4 F39.F39.4 F3A.F3D.5 F71.F7E.4 F80.F84.4 F86.F87.4
F8D.FBC.4 FC6.FC6.4 102D.1030.4 1032.1037.4 1039.103A.4 103D.103E.4 1058.1059.4 105E.1060.4
1071.1074.4 1082.1082.4 1085.1086.4 108D.108D.4 109D.109D.4 135D.135F.4 1390.1399.5 1400.1400.5
169B.169C.5 1712.1714.4 1732.1733.4 1752.1753.4 1772.1773.4 17B7.17BD.4 17C6.17C6.4 17C9.17D3.4
17DB.17DB.5 17DD.17DD.4 17F0.180A.5 1885.1886.4 18A9.18A9.4 1920.1922.4 1927.1928.4 1932.1932.4
1939.193B.4 1940.1945.5 19DE.19FF.5 1A17.1A18.4 1A1B.1A1B.4 1A56.1A56.4 1A58.1A60.4 1A62.1A62.4
1A65.1A6C.4 1A73.1A7F.4 1AB0.1B03.4 1B34.1B34.4 1B36.1B3A.4 1B3C.1B3C.4 1B42.1B42.4 1B6B.1B73.4
1B80.1B81.4 1BA2.1BA5.4 1BA8.1BA9.4 1BAB.1BAD.4 1BE6.1BE6.4 1BE8.1BE9.4 1BED.1BED.4 1BEF.1BF1.4
1C2C.1C33.4 1C36.1C37.4 1CD0.1CD2.4 1CD4.1CE0.4 1CE2.1CE8.4 1CED.1CED.4 1CF4.1CF4.4 1CF8.1CF9.4
1DC0.1DFF.4 200C.20C1.5 20D0.20F0.4 2104.214D.5 218A.2335.5 237B.2394.5 2396.26AB.5 26AD.27FF.5
2900.2BFF.5 2CE5.2CEA.5 2CEF.2CF1.4 2CF9.2CFF.5 2D7F.2D7F.4 2DE0.2DFF.4 2E00.3004.5 3008.3020.5
302A.302D.4 3030.3030.5 3037.3037.5 303D.303F.5 3099.309A.4 30A0.30A0.5 30FB.30FB.5 31C0.31E3.5
4DC0.4DFF.5 A490.A4C6.5 A60D.A60F.5 A66F.A672.4 A673.A673.5 A674.A67D.4 A67E.A67F.5 A69E.A69F.4
A6F0.A6F1.4 A700.A721.5 A788.A788.5 A802.A802.4 A806.A806.4 A80B.A80B.4 A825.A826.4 A828.A82B.5
A82C.A82C.4 A838.A839.5 A874.A877.5 A8C4.A8C5.4 A8E0.A8F1.4 A8FF.A8FF.4 A926.A92D.4 A947.A951.4
A980.A982.4 A9B3.A9B3.4 A9B6.A9B9.4 A9BC.A9BD.4 A9E5.A9E5.4 AA29.AA2E.4 AA31.AA32.4 AA35.AA36.4
AA43.AA43.4 AA4C.AA4C.4 AA7C.AA7C.4 AAB0.AAB0.4 AAB2.AAB4.4 AAB7.AAB8.4 AABE.AABF.4 AAC1.AAC1.4
AAEC.AAED.4 AAF6.AAF6.4 AB6A.AB6B.5 ABE5.ABE5.4 ABE8.ABE8.4 ABED.ABED.4 FB1E.FB1E.4 FBB2.FBD2.1
FD3E.FD4F.5 FD90.FDCE.1 FDCF.FDFF.5 FE20.FE2F.4 FE45.FE46.5 FE73.FE73.1 10101.10101.5
10140.1018C.5 10190.101A0.5 101FD.101FD.4 102E0.102E0.4 102E1.102FB.3 10376.1037A.4
10800.1091B.1 1091F.1091F.5 10920.10A00.1 10A01.10A0F.4 10A10.10A35.1 10A38.10A3F.4
10A40.10AE4.1 10AE5.10AE6.4 10AEB.10B35.1 10B39.10B3F.5 10B40.10D23.1 10D24.10D27.4
10D30.10D39.2 10D40.10D4F.1 10D69.10D6D.4 10D6E.10D8F.1 10E60.10E7E.2 10E80.10EA9.1
10EAB.10EAC.4 10EAD.10ED8.1 10EFA.10EFF.4 10F00.10F45.1 10F46.10F50.4 10F51.10F81.1
10F82.10F85.4 10F86.10FF6.1 11001.11001.4 11038.11046.4 11052.11065.5 11070.11070.4
11073.11074.4 1107F.11081.4 110B3.110B6.4 110B9.110BA.4 110C2.110C2.4 11100.11102.4
11127.1112B.4 1112D.11134.4 11173.11173.4 11180.11181.4 111B6.111BE.4 111C9.111CC.4
111CF.111CF.4 1122F.11231.4 11234.11234.4 11236.11237.4 1123E.1123E.4 11241.11241.4
112DF.112DF.4 112E3.112EA.4 11300.11301.4 1133B.1133C.4 11340.11340.4 11366.11374.4
113BB.113C0.4 113CE.113CE.4 113D0.113D0.4 113D2.113D2.4 113E1.113E2.4 11438.1143F.4
11442.11444.4 11446.11446.4 1145E.1145E.4 114B3.114B8.4 114BA.114BA.4 114BF.114C0.4
114C2.114C3.4 115B2.115B5.4 115BC.115BD.4 115BF.115C0.4 115DC.115DD.4 11633.1163A.4
1163D.1163D.4 1163F.11640.4 11660.1166C.5 116AB.116AB.4 116AD.116AD.4 116B0.116B5.4
116B7.116B7.4 1171D.1171F.4 11722.11725.4 11727.1172B.4 1182F.11837.4 11839.1183A.4
1193B.1193C.4 1193E.1193E.4 11943.11943.4 119D4.119DB.4 119E0.119E0.4 11A01.11A0A.4
11A33.11A38.4 11A3B.11A3E.4 11A47.11A47.4 11A51.11A56.4 11A59.11A5B.4 11A8A.11A96.4
11A98.11A99.4 11B60.11B60.4 11B62.11B64.4 11B66.11B66.4 11C30.11C3D.4 11C3F.11C3F.4
11C92.11CA7.4 11CAA.11CB0.4 11CB2.11CB3.4 11CB5.11CB6.4 11D31.11D45.4 11D47.11D47.4
11D90.11D91.4 11D95.11D95.4 11D97.11D97.4 11EF3.11EF4.4 11F00.11F01.4 11F36.11F3A.4
11F40.11F40.4 11F42.11F42.4 11F5A.11F5A.4 11FD5.11FF1.5 13440.13440.4 13447.13455.4
1611E.16129.4 1612D.1612F.4 16AF0.16AF4.4 16B30.16B36.4 16F4F.16F4F.4 16F8F.16F92.4
16FE2.16FE2.5 16FE4.16FE4.4 1BC9D.1BC9E.4 1CC00.1CEF0.5 1CF00.1CF46.4 1D167.1D169.4
1D17B.1D182.4 1D185.1D18B.4 1D1AA.1D1AD.4 1D1E9.1D241.5 1D242.1D244.4 1D245.1D245.5
1D300.1D356.5 1DA00.1DA36.4 1DA3B.1DA6C.4 1DA75.1DA75.4 1DA84.1DA84.4 1DA9B.1DAAF.4
1E000.1E08F.4 1E130.1E136.4 1E2AE.1E2AE.4 1E2EC.1E2EF.4 1E2FF.1E2FF.5 1E4EC.1E4EF.4
1E5EE.1E5EF.4 1E6E3.1E6E3.4 1E6E6.1E6E6.4 1E6EE.1E6EF.4 1E6F5.1E6F5.4 1E800.1E8CF.1
1E8D0.1E8D6.4 1E922.1E943.1 1E944.1E94A.4 1E94B.1ED3D.1 1EEF0.1F12F.5 1F16D.1F16F.5
1F1AD.1F1AD.5 1F260.1FBFA.5"

/-- The direction of a character that a name can hold. -/
def direction (c : Char) : Direction :=
  match Text.tableClass directionRanges c.toNat with
  | 0 => .left
  | 1 => .right
  | 2 => .arabicDigit
  | 3 => .digit
  | 4 => .mark
  | _ => .neutral

/-- Does the name hold a character that is written from right to left? -/
def readsRightToLeft (cs : List Char) : Bool :=
  cs.any (fun c => direction c = .right || direction c = .arabicDigit)

/-- The direction in which a label ends, apart from marks. -/
def lastDirection? (ds : List Direction) : Option Direction :=
  (ds.reverse.dropWhile (fun d => d = .mark)).head?

/-- Is the label, in a name with a character written from right to left, shown in one piece?  It
has to begin with a letter, which decides what may follow and how it may end. -/
def keepsDirection (label : List Char) : Bool :=
  let ds := label.map direction
  match ds with
  | [] => true
  | .right :: _ =>
    ds.all (fun d => d ≠ .left) &&
      !(ds.any (fun d => d = .digit) && ds.any (fun d => d = .arabicDigit)) &&
      (match lastDirection? ds with
      | some d => d = .right || d = .digit || d = .arabicDigit
      | none => false)
  | .left :: _ =>
    ds.all (fun d => d ≠ .right && d ≠ .arabicDigit) &&
      (match lastDirection? ds with
      | some d => d = .left || d = .digit
      | none => false)
  | _ => false

end Tagging.Url
