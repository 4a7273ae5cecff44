import LogQuery.Unicode.CharSet

/-! Characters that are equal when case is ignored (simple case folding of Unicode 16). -/

set_option autoImplicit false

namespace LogQuery.Unicode

/-- Pairs of characters that differ in case alone, as runs: the first and last of the lower
characters of the pairs, every second one only where `/2` stands, and the distance to the higher. -/
def casePairTable : List String := [
    "41-5a+20 4b+20df 53+12c 6b+20bf 73+10c b5+2e7 b5+307 c0-d6+20 c5+2066 d8-de+20 df+1dbf",
    "e5+2046 ff+79 100-12e/2+1 132-136/2+1 139-147/2+1 14a-176/2+1 179-17d/2+1 180+c3 181+d2",
    "182-184/2+1 186+ce 187+1 189-18a+cd 18b+1 18e+4f 18f+ca 190+cb 191+1 193+cd 194+cf 195+61",
    "196+d3 197+d1 198+1 19a+a3 19b+a641 19c+d3 19d+d5 19e+82 19f+d6 1a0-1a4/2+1 1a6+da 1a7+1",
    "1a9+da 1ac+1 1ae+da 1af+1 1b1-1b2+d9 1b3-1b5/2+1 1b7+db 1b8+1 1bc+1 1bf+38 1c4+2 1c4-1c5+1",
    "1c7+2 1c7-1c8+1 1ca+2 1ca-1cb+1 1cd-1db/2+1 1de-1ee/2+1 1f1+2 1f1-1f2+1 1f4+1 1f8-21e/2+1",
    "222-232/2+1 23a+2a2b 23b+1 23e+2a28 23f-240+2a3f 241+1 244+45 245+47 246-24e/2+1 250+2a1f",
    "251+2a1c 252+2a1e 25c+a54f 261+a54b 264+a567 265+a528 266+a544 26a+a544 26b+29f7 26c+a541",
    "271+29fd 27d+29e7 282+a543 287+a52a 29d+a515 29e+a512 345+54 345+74 345+1c79 370-372/2+1",
    "376+1 37b-37d+82 37f+74 386+26 388-38a+25 38c+40 38e-38f+3f 390+1c43 391-3a1+20 392+3e",
    "395+60 398+39 398+5c 399+1c25 39a+56 3a0+36 3a1+50 3a3+1f 3a3-3ab+20 3a6+2f 3a9+1d7d",
    "3b0+1c33 3b2+1e 3b5+40 3b8+19 3b8+3c 3b9+1c05 3ba+36 3c0+16 3c1+30 3c2+1 3c6+f 3c9+1d5d",
    "3cf+8 3d1+23 3d8-3ee/2+1 3f2+7 3f7+1 3fa+1 400-40f+50 410-42f+20 412+186e 414+186d",
    "41e+1864 421-422+1862 422+1863 42a+185c 432+184e 434+184d 43e+1844 441-442+1842 442+1843",
    "44a+183c 460-480/2+1 462+1825 463+1824 48a-4be/2+1 4c0+f 4c1-4cd/2+1 4d0-52e/2+1",
    "531-556+30 10a0-10c5+1c60 10c7+1c60 10cd+1c60 10d0-10fa+bc0 10fd-10ff+bc0 13a0-13ef+97d0",
    "13f0-13f5+8 1c84+1 1c88+89c2 1c88+89c3 1c89+1 1d79+8a04 1d7d+ee6 1d8e+8a38 1e00-1e94/2+1",
    "1e60+3b 1e61+3a 1ea0-1efe/2+1 1f00-1f07+8 1f10-1f15+8 1f20-1f27+8 1f30-1f37+8 1f40-1f45+8",
    "1f51-1f57/2+8 1f60-1f67+8 1f70-1f71+4a 1f72-1f75+56 1f76-1f77+64 1f78-1f79+80 1f7a-1f7b+70",
    "1f7c-1f7d+7e 1f80-1f87+8 1f90-1f97+8 1fa0-1fa7+8 1fb0-1fb1+8 1fb3+9 1fc3+9 1fd0-1fd1+8",
    "1fe0-1fe1+8 1fe5+7 1ff3+9 2132+1c 2160-216f+10 2183+1 24b6-24cf+1a 2c00-2c2f+30 2c60+1",
    "2c67-2c6b/2+1 2c72+1 2c75+1 2c80-2ce2/2+1 2ceb-2ced/2+1 2cf2+1 a640-a66c/2+1 a680-a69a/2+1",
    "a722-a72e/2+1 a732-a76e/2+1 a779-a77b/2+1 a77e-a786/2+1 a78b+1 a790-a792/2+1 a794+30",
    "a796-a7a8/2+1 a7b3+3a0 a7b4-a7c2/2+1 a7c7-a7c9/2+1 a7cc+1 a7d0+1 a7d6-a7da/2+1 a7f5+1",
    "fb05+1 ff21-ff3a+20 10400-10427+28 104b0-104d3+28 10570-1057a+27 1057c-1058a+27",
    "1058c-10592+27 10594-10595+27 10c80-10cb2+40 10d50-10d65+20 118a0-118bf+20 16e40-16e5f+20",
    "1e900-1e921+22"]

structure CaseRun where
  first : Nat
  last : Nat
  step : Nat
  distance : Nat

def readCaseRun? (entry : String) : Option CaseRun :=
  match entry.splitOn "+" with
  | [range, distance] => do
    let (bounds, step) := match range.splitOn "/" with
      | [bounds, _] => (bounds, 2)
      | _ => (range, 1)
    let (first, last) ← readRange? bounds
    some ⟨first, last, step, ← readHex? distance⟩
  | _ => none

def caseRuns : List CaseRun := (words casePairTable).filterMap readCaseRun?

def casePairs : List (Nat × Nat) :=
  caseRuns.flatMap fun run =>
    (List.range ((run.last - run.first) / run.step + 1)).map fun index =>
      (run.first + index * run.step, run.first + index * run.step + run.distance)

def ignoreCase (set : CharSet) : CharSet :=
  set.union <| CharSet.ofRanges <| casePairs.flatMap fun (low, high) =>
    (if set.containsCode low then [(high, high)] else [])
      ++ (if set.containsCode high then [(low, low)] else [])

end LogQuery.Unicode
