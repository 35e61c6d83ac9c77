import SqlMigration.Text.Utf8

/-!
# Characters of the UTF-8 locale

The text tools run in the C.UTF-8 locale: they read their input as UTF-8 and classify, case-map
and measure the characters with the locale's tables, which cover all of Unicode. A byte that
starts no valid character stays a byte of its own: it belongs to no class, has no width, and is
written back unchanged.

Decoding follows the locale's converter: at each place either a whole valid UTF-8 character
starts, with the same limits as a strict decoder (no overlong forms, no surrogates, nothing above
U+10FFFF), or the byte there is taken alone and decoding goes on at the next byte. A lone byte
`b` is represented by the code point U+10FF00 + `b`, from the private-use plane that text does
not use.

The tables are sorted, disjoint, inclusive intervals of code points written in hexadecimal and
read once; a class test is a binary search among them.
-/

namespace SqlMigration.Text.Unicode

/-! ## Decoding -/

/-- The first code point that stands for a lone byte. -/
def rawBase : Nat := 0x10FF00

/-- The character that stands for a byte which starts no valid character. -/
def rawChar (b : UInt8) : Char := Char.ofNat (rawBase + b.toNat)

/-- The byte a character stands for, when it stands for a lone byte. -/
def rawByte? (c : Char) : Option UInt8 :=
  if rawBase ≤ c.toNat then some (c.toNat - rawBase).toUInt8 else none

/-- Whether a character stands for a lone byte. -/
def isRaw (c : Char) : Bool := rawBase ≤ c.toNat

/-- The valid character at the front of some bytes, and how many bytes it takes. -/
def charAt? (bs : List UInt8) : Option (Char × Nat) :=
  match bs with
  | [] => none
  | b :: rest =>
    match Utf8.continuations b with
    | none => none
    | some 0 => some (Char.ofNat b.toNat, 1)
    | some k =>
      let tail := rest.take k
      let (lo, hi) := Utf8.firstRange b
      let firstOk : Bool := match tail with
        | c :: _ => decide (lo ≤ c ∧ c ≤ hi)
        | [] => false
      if tail.length = k ∧ firstOk ∧ tail.all (fun c => 0x80 ≤ c ∧ c ≤ 0xBF) then
        some (Char.ofNat (tail.foldl (fun v c => v * 64 + c.toNat % 64) (Utf8.leadBits b k)), k + 1)
      else none

/-- The characters of some bytes, each byte that starts no valid character standing alone. -/
def decode (bs : List UInt8) : List Char :=
  go bs.length bs
where
  go : Nat → List UInt8 → List Char
    | 0, _ => []
    | _ + 1, [] => []
    | n + 1, b :: rest =>
      match charAt? (b :: rest) with
      | some (c, k) => c :: go n ((b :: rest).drop k)
      | none => rawChar b :: go n rest

/-- The bytes of one character: its UTF-8 form, or the lone byte it stands for. -/
def encodeChar (c : Char) : List UInt8 :=
  match rawByte? c with
  | some b => [b]
  | none => Utf8.encodeChar c

def encode (cs : List Char) : List UInt8 := cs.flatMap encodeChar

/-! ## Tables -/

/-- A table of mapping runs `first-last/step+offset` or `first-last/step-offset`. -/
def readRuns (s : String) : Array (Nat × Nat × Nat × Int) :=
  ((s.splitOn ",").map fun item =>
    match item.splitOn "/" with
    | [span, shift] =>
      let (a, b) := match span.splitOn "-" with
        | [a, b] => (readHex a, readHex b)
        | _ => (readHex span, readHex span)
      let (step, offset) : Nat × Int := match shift.splitOn "+" with
        | [k, d] => (readHex k, (readHex d : Int))
        | _ => match shift.splitOn "-" with
          | [k, d] => (readHex k, -(readHex d : Int))
          | _ => (1, 0)
      (a, b, max step 1, offset)
    | _ => (0, 0, 1, 0)).toArray

/-- The index of the entry among `lo ≤ i < hi` of a sorted table whose interval holds `n`. -/
def findEntry {α : Type} (table : Array α) (span : α → Nat × Nat) (n : Nat) (lo hi : Nat) :
    Option α :=
  if _h : lo < hi then
    let mid := (lo + hi) / 2
    match table[mid]? with
    | some e =>
      let (a, b) := span e
      if n < a then findEntry table span n lo mid
      else if b < n then findEntry table span n (mid + 1) hi
      else some e
    | none => none
  else none
termination_by hi - lo

/-- Whether a code point lies in one of the intervals of a table. -/
def inTable (table : Array (Nat × Nat)) (n : Nat) : Bool :=
  (findEntry table id n 0 table.size).isSome

/-- The letters: code points for which the alphabetic class holds. -/
def letterTable : String :=
  String.join [
    "41-5a,61-7a,aa,b5,ba,c0-d6,d8-f6,f8-2c1,2c6-2d1,2e0-2e4,2ec,2ee,345,370-374,376-377,",
    "37a-37d,37f,386,388-38a,38c,38e-3a1,3a3-3f5,3f7-481,48a-52f,531-556,559,560-588,",
    "5b0-5bd,5bf,5c1-5c2,5c4-5c5,5c7,5d0-5ea,5ef-5f2,610-61a,620-657,659-669,66e-6d3,",
    "6d5-6dc,6e1-6e8,6ed-6fc,6ff,710-73f,74d-7b1,7c0-7ea,7f4-7f5,7fa,800-817,81a-82c,",
    "840-858,860-86a,870-887,889-88e,8a0-8c9,8d4-8df,8e3-8e9,8f0-93b,93d-94c,94e-950,",
    "955-963,966-96f,971-983,985-98c,98f-990,993-9a8,9aa-9b0,9b2,9b6-9b9,9bd-9c4,9c7-9c8,",
    "9cb-9cc,9ce,9d7,9dc-9dd,9df-9e3,9e6-9f1,9fc,a01-a03,a05-a0a,a0f-a10,a13-a28,a2a-a30,",
    "a32-a33,a35-a36,a38-a39,a3e-a42,a47-a48,a4b-a4c,a51,a59-a5c,a5e,a66-a75,a81-a83,",
    "a85-a8d,a8f-a91,a93-aa8,aaa-ab0,ab2-ab3,ab5-ab9,abd-ac5,ac7-ac9,acb-acc,ad0,ae0-ae3,",
    "ae6-aef,af9-afc,b01-b03,b05-b0c,b0f-b10,b13-b28,b2a-b30,b32-b33,b35-b39,b3d-b44,",
    "b47-b48,b4b-b4c,b56-b57,b5c-b5d,b5f-b63,b66-b6f,b71,b82-b83,b85-b8a,b8e-b90,b92-b95,",
    "b99-b9a,b9c,b9e-b9f,ba3-ba4,ba8-baa,bae-bb9,bbe-bc2,bc6-bc8,bca-bcc,bd0,bd7,be6-bef,",
    "c00-c0c,c0e-c10,c12-c28,c2a-c39,c3d-c44,c46-c48,c4a-c4c,c55-c56,c58-c5a,c5d,c60-c63,",
    "c66-c6f,c80-c83,c85-c8c,c8e-c90,c92-ca8,caa-cb3,cb5-cb9,cbd-cc4,cc6-cc8,cca-ccc,",
    "cd5-cd6,cdd-cde,ce0-ce3,ce6-cef,cf1-cf3,d00-d0c,d0e-d10,d12-d3a,d3d-d44,d46-d48,",
    "d4a-d4c,d4e,d54-d57,d5f-d63,d66-d6f,d7a-d7f,d81-d83,d85-d96,d9a-db1,db3-dbb,dbd,",
    "dc0-dc6,dcf-dd4,dd6,dd8-ddf,de6-def,df2-df3,e01-e3a,e40-e46,e4d,e50-e59,e81-e82,e84,",
    "e86-e8a,e8c-ea3,ea5,ea7-eb9,ebb-ebd,ec0-ec4,ec6,ecd,ed0-ed9,edc-edf,f00,f20-f29,",
    "f40-f47,f49-f6c,f71-f83,f88-f97,f99-fbc,1000-1036,1038,103b-1049,1050-109d,10a0-10c5,",
    "10c7,10cd,10d0-10fa,10fc-1248,124a-124d,1250-1256,1258,125a-125d,1260-1288,128a-128d,",
    "1290-12b0,12b2-12b5,12b8-12be,12c0,12c2-12c5,12c8-12d6,12d8-1310,1312-1315,1318-135a,",
    "1380-138f,13a0-13f5,13f8-13fd,1401-166c,166f-167f,1681-169a,16a0-16ea,16ee-16f8,",
    "1700-1713,171f-1733,1740-1753,1760-176c,176e-1770,1772-1773,1780-17b3,17b6-17c8,17d7,",
    "17dc,17e0-17e9,1810-1819,1820-1878,1880-18aa,18b0-18f5,1900-191e,1920-192b,1930-1938,",
    "1946-196d,1970-1974,1980-19ab,19b0-19c9,19d0-19d9,1a00-1a1b,1a20-1a5e,1a61-1a74,",
    "1a80-1a89,1a90-1a99,1aa7,1abf-1ac0,1acc-1ace,1b00-1b33,1b35-1b43,1b45-1b4c,1b50-1b59,",
    "1b80-1ba9,1bac-1be5,1be7-1bf1,1c00-1c36,1c40-1c49,1c4d-1c7d,1c80-1c88,1c90-1cba,",
    "1cbd-1cbf,1ce9-1cec,1cee-1cf3,1cf5-1cf6,1cfa,1d00-1dbf,1de7-1df4,1e00-1f15,1f18-1f1d,",
    "1f20-1f45,1f48-1f4d,1f50-1f57,1f59,1f5b,1f5d,1f5f-1f7d,1f80-1fb4,1fb6-1fbc,1fbe,",
    "1fc2-1fc4,1fc6-1fcc,1fd0-1fd3,1fd6-1fdb,1fe0-1fec,1ff2-1ff4,1ff6-1ffc,2071,207f,",
    "2090-209c,2102,2107,210a-2113,2115,2119-211d,2124,2126,2128,212a-212d,212f-2139,",
    "213c-213f,2145-2149,214e,2160-2188,24b6-24e9,2c00-2ce4,2ceb-2cee,2cf2-2cf3,2d00-2d25,",
    "2d27,2d2d,2d30-2d67,2d6f,2d80-2d96,2da0-2da6,2da8-2dae,2db0-2db6,2db8-2dbe,2dc0-2dc6,",
    "2dc8-2dce,2dd0-2dd6,2dd8-2dde,2de0-2dff,2e2f,3005-3007,3021-3029,3031-3035,3038-303c,",
    "3041-3096,309d-309f,30a1-30fa,30fc-30ff,3105-312f,3131-318e,31a0-31bf,31f0-31ff,",
    "3400-4dbf,4e00-a48c,a4d0-a4fd,a500-a60c,a610-a62b,a640-a66e,a674-a67b,a67f-a6ef,",
    "a717-a71f,a722-a788,a78b-a7ca,a7d0-a7d1,a7d3,a7d5-a7d9,a7f2-a805,a807-a827,a840-a873,",
    "a880-a8c3,a8c5,a8d0-a8d9,a8f2-a8f7,a8fb,a8fd-a92a,a930-a952,a960-a97c,a980-a9b2,",
    "a9b4-a9bf,a9cf-a9d9,a9e0-a9fe,aa00-aa36,aa40-aa4d,aa50-aa59,aa60-aa76,aa7a-aabe,aac0,",
    "aac2,aadb-aadd,aae0-aaef,aaf2-aaf5,ab01-ab06,ab09-ab0e,ab11-ab16,ab20-ab26,ab28-ab2e,",
    "ab30-ab5a,ab5c-ab69,ab70-abea,abf0-abf9,ac00-d7a3,d7b0-d7c6,d7cb-d7fb,f900-fa6d,",
    "fa70-fad9,fb00-fb06,fb13-fb17,fb1d-fb28,fb2a-fb36,fb38-fb3c,fb3e,fb40-fb41,fb43-fb44,",
    "fb46-fbb1,fbd3-fd3d,fd50-fd8f,fd92-fdc7,fdf0-fdfb,fe70-fe74,fe76-fefc,ff10-ff19,",
    "ff21-ff3a,ff41-ff5a,ff66-ffbe,ffc2-ffc7,ffca-ffcf,ffd2-ffd7,ffda-ffdc,10000-1000b,",
    "1000d-10026,10028-1003a,1003c-1003d,1003f-1004d,10050-1005d,10080-100fa,10140-10174,",
    "10280-1029c,102a0-102d0,10300-1031f,1032d-1034a,10350-1037a,10380-1039d,103a0-103c3,",
    "103c8-103cf,103d1-103d5,10400-1049d,104a0-104a9,104b0-104d3,104d8-104fb,10500-10527,",
    "10530-10563,10570-1057a,1057c-1058a,1058c-10592,10594-10595,10597-105a1,105a3-105b1,",
    "105b3-105b9,105bb-105bc,10600-10736,10740-10755,10760-10767,10780-10785,10787-107b0,",
    "107b2-107ba,10800-10805,10808,1080a-10835,10837-10838,1083c,1083f-10855,10860-10876,",
    "10880-1089e,108e0-108f2,108f4-108f5,10900-10915,10920-10939,10980-109b7,109be-109bf,",
    "10a00-10a03,10a05-10a06,10a0c-10a13,10a15-10a17,10a19-10a35,10a60-10a7c,10a80-10a9c,",
    "10ac0-10ac7,10ac9-10ae4,10b00-10b35,10b40-10b55,10b60-10b72,10b80-10b91,10c00-10c48,",
    "10c80-10cb2,10cc0-10cf2,10d00-10d27,10d30-10d39,10e80-10ea9,10eab-10eac,10eb0-10eb1,",
    "10f00-10f1c,10f27,10f30-10f45,10f70-10f81,10fb0-10fc4,10fe0-10ff6,11000-11045,",
    "11066-1106f,11071-11075,11080-110b8,110c2,110d0-110e8,110f0-110f9,11100-11132,",
    "11136-1113f,11144-11147,11150-11172,11176,11180-111bf,111c1-111c4,111ce-111da,111dc,",
    "11200-11211,11213-11234,11237,1123e-11241,11280-11286,11288,1128a-1128d,1128f-1129d,",
    "1129f-112a8,112b0-112e8,112f0-112f9,11300-11303,11305-1130c,1130f-11310,11313-11328,",
    "1132a-11330,11332-11333,11335-11339,1133d-11344,11347-11348,1134b-1134c,11350,11357,",
    "1135d-11363,11400-11441,11443-11445,11447-1144a,11450-11459,1145f-11461,11480-114c1,",
    "114c4-114c5,114c7,114d0-114d9,11580-115b5,115b8-115be,115d8-115dd,11600-1163e,11640,",
    "11644,11650-11659,11680-116b5,116b8,116c0-116c9,11700-1171a,1171d-1172a,11730-11739,",
    "11740-11746,11800-11838,118a0-118e9,118ff-11906,11909,1190c-11913,11915-11916,",
    "11918-11935,11937-11938,1193b-1193c,1193f-11942,11950-11959,119a0-119a7,119aa-119d7,",
    "119da-119df,119e1,119e3-119e4,11a00-11a32,11a35-11a3e,11a50-11a97,11a9d,11ab0-11af8,",
    "11c00-11c08,11c0a-11c36,11c38-11c3e,11c40,11c50-11c59,11c72-11c8f,11c92-11ca7,",
    "11ca9-11cb6,11d00-11d06,11d08-11d09,11d0b-11d36,11d3a,11d3c-11d3d,11d3f-11d41,11d43,",
    "11d46-11d47,11d50-11d59,11d60-11d65,11d67-11d68,11d6a-11d8e,11d90-11d91,11d93-11d96,",
    "11d98,11da0-11da9,11ee0-11ef6,11f00-11f10,11f12-11f3a,11f3e-11f40,11f50-11f59,11fb0,",
    "12000-12399,12400-1246e,12480-12543,12f90-12ff0,13000-1342f,13441-13446,14400-14646,",
    "16800-16a38,16a40-16a5e,16a60-16a69,16a70-16abe,16ac0-16ac9,16ad0-16aed,16b00-16b2f,",
    "16b40-16b43,16b50-16b59,16b63-16b77,16b7d-16b8f,16e40-16e7f,16f00-16f4a,16f4f-16f87,",
    "16f8f-16f9f,16fe0-16fe1,16fe3,16ff0-16ff1,17000-187f7,18800-18cd5,18d00-18d08,",
    "1aff0-1aff3,1aff5-1affb,1affd-1affe,1b000-1b122,1b132,1b150-1b152,1b155,1b164-1b167,",
    "1b170-1b2fb,1bc00-1bc6a,1bc70-1bc7c,1bc80-1bc88,1bc90-1bc99,1bc9e,1d400-1d454,",
    "1d456-1d49c,1d49e-1d49f,1d4a2,1d4a5-1d4a6,1d4a9-1d4ac,1d4ae-1d4b9,1d4bb,1d4bd-1d4c3,",
    "1d4c5-1d505,1d507-1d50a,1d50d-1d514,1d516-1d51c,1d51e-1d539,1d53b-1d53e,1d540-1d544,",
    "1d546,1d54a-1d550,1d552-1d6a5,1d6a8-1d6c0,1d6c2-1d6da,1d6dc-1d6fa,1d6fc-1d714,",
    "1d716-1d734,1d736-1d74e,1d750-1d76e,1d770-1d788,1d78a-1d7a8,1d7aa-1d7c2,1d7c4-1d7cb,",
    "1d7ce-1d7ff,1df00-1df1e,1df25-1df2a,1e000-1e006,1e008-1e018,1e01b-1e021,1e023-1e024,",
    "1e026-1e02a,1e030-1e06d,1e08f,1e100-1e12c,1e137-1e13d,1e140-1e149,1e14e,1e290-1e2ad,",
    "1e2c0-1e2eb,1e2f0-1e2f9,1e4d0-1e4eb,1e4f0-1e4f9,1e7e0-1e7e6,1e7e8-1e7eb,1e7ed-1e7ee,",
    "1e7f0-1e7fe,1e800-1e8c4,1e900-1e943,1e947,1e94b,1e950-1e959,1ee00-1ee03,1ee05-1ee1f,",
    "1ee21-1ee22,1ee24,1ee27,1ee29-1ee32,1ee34-1ee37,1ee39,1ee3b,1ee42,1ee47,1ee49,1ee4b,",
    "1ee4d-1ee4f,1ee51-1ee52,1ee54,1ee57,1ee59,1ee5b,1ee5d,1ee5f,1ee61-1ee62,1ee64,",
    "1ee67-1ee6a,1ee6c-1ee72,1ee74-1ee77,1ee79-1ee7c,1ee7e,1ee80-1ee89,1ee8b-1ee9b,",
    "1eea1-1eea3,1eea5-1eea9,1eeab-1eebb,1f130-1f149,1f150-1f169,1f170-1f189,1fbf0-1fbf9,",
    "20000-2a6df,2a700-2b739,2b740-2b81d,2b820-2cea1,2ceb0-2ebe0,2ebf0-2ee5d,2f800-2fa1d,",
    "30000-3134a,31350-323af"]

/-- The upper-case letters without a lower-case form. -/
def upperOnlyTable : String :=
  String.join [
    "3d2-3d4,2102,2107,210b-210d,2110-2112,2115,2119-211d,2124,2128,212c-212d,2130-2131,",
    "2133,213e-213f,2145,1d400-1d419,1d434-1d44d,1d468-1d481,1d49c,1d49e-1d49f,1d4a2,",
    "1d4a5-1d4a6,1d4a9-1d4ac,1d4ae-1d4b5,1d4d0-1d4e9,1d504-1d505,1d507-1d50a,1d50d-1d514,",
    "1d516-1d51c,1d538-1d539,1d53b-1d53e,1d540-1d544,1d546,1d54a-1d550,1d56c-1d585,",
    "1d5a0-1d5b9,1d5d4-1d5ed,1d608-1d621,1d63c-1d655,1d670-1d689,1d6a8-1d6c0,1d6e2-1d6fa,",
    "1d71c-1d734,1d756-1d76e,1d790-1d7a8,1d7ca,1f130-1f149,1f150-1f169,1f170-1f189"]

/-- The lower-case letters without an upper-case form. -/
def lowerOnlyTable : String :=
  String.join [
    "aa,ba,df,138,149,18d,19b,1aa-1ab,1ba,1be,1f0,221,234-239,255,258,25a,25d-25f,262,",
    "264,267,26d-26e,270,273-274,276-27c,27e-27f,281,284-286,28d-291,293,295-29c,29f-2b8,",
    "2c0-2c1,2e0-2e4,37a,390,3b0,3fc,560,587-588,10fc,1d00-1d78,1d7a-1d7c,1d7e-1d8d,",
    "1d8f-1dbf,1e96-1e9a,1e9c-1e9d,1e9f,1f50,1f52,1f54,1f56,1fb2,1fb4,1fb6-1fb7,1fc2,",
    "1fc4,1fc6-1fc7,1fd2-1fd3,1fd6-1fd7,1fe2-1fe4,1fe6-1fe7,1ff2,1ff4,1ff6-1ff7,2071,",
    "207f,2090-209c,210a,210e-210f,2113,212f,2134,2139,213c-213d,2146-2149,2c71,2c74,",
    "2c77-2c7d,2ce4,a69c-a69d,a730-a731,a770-a778,a78e,a795,a7af,a7d3,a7d5,a7f2-a7f4,",
    "a7f8-a7fa,ab30-ab52,ab54-ab5a,ab5c-ab69,fb00-fb06,fb13-fb17,10780,10783-10785,",
    "10787-107b0,107b2-107ba,1d41a-1d433,1d44e-1d454,1d456-1d467,1d482-1d49b,1d4b6-1d4b9,",
    "1d4bb,1d4bd-1d4c3,1d4c5-1d4cf,1d4ea-1d503,1d51e-1d537,1d552-1d56b,1d586-1d59f,",
    "1d5ba-1d5d3,1d5ee-1d607,1d622-1d63b,1d656-1d66f,1d68a-1d6a5,1d6c2-1d6da,1d6dc-1d6e1,",
    "1d6fc-1d714,1d716-1d71b,1d736-1d74e,1d750-1d755,1d770-1d788,1d78a-1d78f,1d7aa-1d7c2,",
    "1d7c4-1d7c9,1d7cb,1df00-1df09,1df0b-1df1e,1df25-1df2a,1e030-1e06d"]

/-- The printable characters that a quoted literal escapes (`printableTable`): format
characters, private use, the spaces other than the space, and the characters Unicode 15 adds. -/
def printOnlyTable : String :=
  String.join [
    "a0,ad,600-605,61c,6dd,70f,890-891,8e2,cf3,ece,1680,180e,2000-200f,202a-202f,",
    "205f-2064,2066-206f,2ffc-3000,31ef,e000-f8ff,feff,fff9-fffb,10efd-10eff,110bd,110cd,",
    "1123f-11241,11b00-11b09,11f00-11f10,11f12-11f3a,11f3e-11f59,1342f-13455,1b132,1b155,",
    "1bca0-1bca3,1d173-1d17a,1d2c0-1d2d3,1df25-1df2a,1e030-1e06d,1e08f,1e4d0-1e4f9,1f6dc,",
    "1f774-1f776,1f77b-1f77f,1f7d9,1fa75-1fa77,1fa87-1fa88,1faad-1faaf,1fabb-1fabd,1fabf,",
    "1face-1facf,1fada-1fadb,1fae8,1faf7-1faf8,2b739,2ebf0-2ee5d,31350-323af,e0001,",
    "e0020-e007f,f0000-ffffd,100000-10fffd"]

/-- The printable characters that take no column: combining marks and format characters. -/
def zeroWidthTable : String :=
  String.join [
    "0,300-36f,483-489,591-5bd,5bf,5c1-5c2,5c4-5c5,5c7,610-61a,61c,64b-65f,670,6d6-6dc,",
    "6df-6e4,6e7-6e8,6ea-6ed,711,730-74a,7a6-7b0,7eb-7f3,7fd,816-819,81b-823,825-827,",
    "829-82d,859-85b,898-89f,8ca-8e1,8e3-902,93a,93c,941-948,94d,951-957,962-963,981,9bc,",
    "9c1-9c4,9cd,9e2-9e3,9fe,a01-a02,a3c,a41-a42,a47-a48,a4b-a4d,a51,a70-a71,a75,a81-a82,",
    "abc,ac1-ac5,ac7-ac8,acd,ae2-ae3,afa-aff,b01,b3c,b3f,b41-b44,b4d,b55-b56,b62-b63,b82,",
    "bc0,bcd,c00,c04,c3c,c3e-c40,c46-c48,c4a-c4d,c55-c56,c62-c63,c81,cbc,cbf,cc6,ccc-ccd,",
    "ce2-ce3,d00-d01,d3b-d3c,d41-d44,d4d,d62-d63,d81,dca,dd2-dd4,dd6,e31,e34-e3a,e47-e4e,",
    "eb1,eb4-ebc,ec8-ece,f18-f19,f35,f37,f39,f71-f7e,f80-f84,f86-f87,f8d-f97,f99-fbc,fc6,",
    "102d-1030,1032-1037,1039-103a,103d-103e,1058-1059,105e-1060,1071-1074,1082,1085-1086,",
    "108d,109d,1160-11ff,135d-135f,1712-1714,1732-1733,1752-1753,1772-1773,17b4-17b5,",
    "17b7-17bd,17c6,17c9-17d3,17dd,180b-180f,1885-1886,18a9,1920-1922,1927-1928,1932,",
    "1939-193b,1a17-1a18,1a1b,1a56,1a58-1a5e,1a60,1a62,1a65-1a6c,1a73-1a7c,1a7f,1ab0-1ace,",
    "1b00-1b03,1b34,1b36-1b3a,1b3c,1b42,1b6b-1b73,1b80-1b81,1ba2-1ba5,1ba8-1ba9,1bab-1bad,",
    "1be6,1be8-1be9,1bed,1bef-1bf1,1c2c-1c33,1c36-1c37,1cd0-1cd2,1cd4-1ce0,1ce2-1ce8,1ced,",
    "1cf4,1cf8-1cf9,1dc0-1dff,200b-200f,202a-202e,2060-2064,2066-206f,20d0-20f0,2cef-2cf1,",
    "2d7f,2de0-2dff,302a-302d,3099-309a,a66f-a672,a674-a67d,a69e-a69f,a6f0-a6f1,a802,a806,",
    "a80b,a825-a826,a82c,a8c4-a8c5,a8e0-a8f1,a8ff,a926-a92d,a947-a951,a980-a982,a9b3,",
    "a9b6-a9b9,a9bc-a9bd,a9e5,aa29-aa2e,aa31-aa32,aa35-aa36,aa43,aa4c,aa7c,aab0,aab2-aab4,",
    "aab7-aab8,aabe-aabf,aac1,aaec-aaed,aaf6,abe5,abe8,abed,d7b0-d7c6,d7cb-d7fb,fb1e,",
    "fe00-fe0f,fe20-fe2f,feff,fff9-fffb,101fd,102e0,10376-1037a,10a01-10a03,10a05-10a06,",
    "10a0c-10a0f,10a38-10a3a,10a3f,10ae5-10ae6,10d24-10d27,10eab-10eac,10efd-10eff,",
    "10f46-10f50,10f82-10f85,11001,11038-11046,11070,11073-11074,1107f-11081,110b3-110b6,",
    "110b9-110ba,110c2,11100-11102,11127-1112b,1112d-11134,11173,11180-11181,111b6-111be,",
    "111c9-111cc,111cf,1122f-11231,11234,11236-11237,1123e,11241,112df,112e3-112ea,",
    "11300-11301,1133b-1133c,11340,11366-1136c,11370-11374,11438-1143f,11442-11444,11446,",
    "1145e,114b3-114b8,114ba,114bf-114c0,114c2-114c3,115b2-115b5,115bc-115bd,115bf-115c0,",
    "115dc-115dd,11633-1163a,1163d,1163f-11640,116ab,116ad,116b0-116b5,116b7,1171d-1171f,",
    "11722-11725,11727-1172b,1182f-11837,11839-1183a,1193b-1193c,1193e,11943,119d4-119d7,",
    "119da-119db,119e0,11a01-11a0a,11a33-11a38,11a3b-11a3e,11a47,11a51-11a56,11a59-11a5b,",
    "11a8a-11a96,11a98-11a99,11c30-11c36,11c38-11c3d,11c3f,11c92-11ca7,11caa-11cb0,",
    "11cb2-11cb3,11cb5-11cb6,11d31-11d36,11d3a,11d3c-11d3d,11d3f-11d45,11d47,11d90-11d91,",
    "11d95,11d97,11ef3-11ef4,11f00-11f01,11f36-11f3a,11f40,11f42,13430-13440,13447-13455,",
    "16af0-16af4,16b30-16b36,16f4f,16f8f-16f92,16fe4,1bc9d-1bc9e,1bca0-1bca3,1cf00-1cf2d,",
    "1cf30-1cf46,1d167-1d169,1d173-1d182,1d185-1d18b,1d1aa-1d1ad,1d242-1d244,1da00-1da36,",
    "1da3b-1da6c,1da75,1da84,1da9b-1da9f,1daa1-1daaf,1e000-1e006,1e008-1e018,1e01b-1e021,",
    "1e023-1e024,1e026-1e02a,1e08f,1e130-1e136,1e2ae,1e2ec-1e2ef,1e4ec-1e4ef,1e8d0-1e8d6,",
    "1e944-1e94a,e0001,e0020-e007f,e0100-e01ef"]

/-- The characters that take two columns: East Asian wide and full-width forms. -/
def doubleWidthTable : String :=
  String.join [
    "1100-115f,231a-231b,2329-232a,23e9-23ec,23f0,23f3,25fd-25fe,2614-2615,2648-2653,267f,",
    "2693,26a1,26aa-26ab,26bd-26be,26c4-26c5,26ce,26d4,26ea,26f2-26f3,26f5,26fa,26fd,2705,",
    "270a-270b,2728,274c,274e,2753-2755,2757,2795-2797,27b0,27bf,2b1b-2b1c,2b50,2b55,",
    "2e80-2e99,2e9b-2ef3,2f00-2fd5,2ff0-3029,302e-303e,3041-3096,309b-30ff,3105-312f,",
    "3131-318e,3190-31e3,31ef-321e,3220-a48c,a490-a4c6,a960-a97c,ac00-d7a3,f900-fa6d,",
    "fa70-fad9,fe10-fe19,fe30-fe52,fe54-fe66,fe68-fe6b,ff01-ff60,ffe0-ffe6,16fe0-16fe3,",
    "16ff0-16ff1,17000-187f7,18800-18cd5,18d00-18d08,1aff0-1aff3,1aff5-1affb,1affd-1affe,",
    "1b000-1b122,1b132,1b150-1b152,1b155,1b164-1b167,1b170-1b2fb,1f004,1f0cf,1f18e,",
    "1f191-1f19a,1f200-1f202,1f210-1f23b,1f240-1f248,1f250-1f251,1f260-1f265,1f300-1f320,",
    "1f32d-1f335,1f337-1f37c,1f37e-1f393,1f3a0-1f3ca,1f3cf-1f3d3,1f3e0-1f3f0,1f3f4,",
    "1f3f8-1f43e,1f440,1f442-1f4fc,1f4ff-1f53d,1f54b-1f54e,1f550-1f567,1f57a,1f595-1f596,",
    "1f5a4,1f5fb-1f64f,1f680-1f6c5,1f6cc,1f6d0-1f6d2,1f6d5-1f6d7,1f6dc-1f6df,1f6eb-1f6ec,",
    "1f6f4-1f6fc,1f7e0-1f7eb,1f7f0,1f90c-1f93a,1f93c-1f945,1f947-1f9ff,1fa70-1fa7c,",
    "1fa80-1fa88,1fa90-1fabd,1fabf-1fac5,1face-1fadb,1fae0-1fae8,1faf0-1faf8,20000-2a6df,",
    "2a700-2b739,2b740-2b81d,2b820-2cea1,2ceb0-2ebe0,2ebf0-2ee5d,2f800-2fa1d,30000-3134a,",
    "31350-323af"]

/-- The upper-case mapping, as runs `first-last/step±offset`: every `step`-th code point from `first` to `last` maps to itself plus the offset. -/
def upperRunTable : String :=
  String.join [
    "61-7a/1-20,b5-b5/1+2e7,e0-f6/1-20,f8-fe/1-20,ff-ff/1+79,101-12f/2-1,131-131/1-e8,",
    "133-137/2-1,13a-148/2-1,14b-177/2-1,17a-17e/2-1,17f-17f/1-12c,180-180/1+c3,183-185/2-1,",
    "188-18c/4-1,192-192/1-1,195-195/1+61,199-199/1-1,19a-19a/1+a3,19e-19e/1+82,1a1-1a5/2-1,",
    "1a8-1ad/5-1,1b0-1b4/4-1,1b6-1b9/3-1,1bd-1bd/1-1,1bf-1bf/1+38,1c5-1c5/1-1,1c6-1c6/1-2,",
    "1c8-1c8/1-1,1c9-1c9/1-2,1cb-1cb/1-1,1cc-1cc/1-2,1ce-1dc/2-1,1dd-1dd/1-4f,1df-1ef/2-1,",
    "1f2-1f2/1-1,1f3-1f3/1-2,1f5-1f9/4-1,1fb-21f/2-1,223-233/2-1,23c-23c/1-1,23f-240/1+2a3f,",
    "242-247/5-1,249-24f/2-1,250-250/1+2a1f,251-251/1+2a1c,252-252/1+2a1e,253-253/1-d2,",
    "254-254/1-ce,256-257/1-cd,259-259/1-ca,25b-25b/1-cb,25c-25c/1+a54f,260-260/1-cd,",
    "261-261/1+a54b,263-263/1-cf,265-265/1+a528,266-266/1+a544,268-268/1-d1,269-269/1-d3,",
    "26a-26a/1+a544,26b-26b/1+29f7,26c-26c/1+a541,26f-26f/1-d3,271-271/1+29fd,272-272/1-d5,",
    "275-275/1-d6,27d-27d/1+29e7,280-280/1-da,282-282/1+a543,283-283/1-da,287-287/1+a52a,",
    "288-288/1-da,289-289/1-45,28a-28b/1-d9,28c-28c/1-47,292-292/1-db,29d-29d/1+a515,",
    "29e-29e/1+a512,345-345/1+54,371-373/2-1,377-377/1-1,37b-37d/1+82,3ac-3ac/1-26,",
    "3ad-3af/1-25,3b1-3c1/1-20,3c2-3c2/1-1f,3c3-3cb/1-20,3cc-3cc/1-40,3cd-3ce/1-3f,",
    "3d0-3d0/1-3e,3d1-3d1/1-39,3d5-3d5/1-2f,3d6-3d6/1-36,3d7-3d7/1-8,3d9-3ef/2-1,",
    "3f0-3f0/1-56,3f1-3f1/1-50,3f2-3f2/1+7,3f3-3f3/1-74,3f5-3f5/1-60,3f8-3fb/3-1,",
    "430-44f/1-20,450-45f/1-50,461-481/2-1,48b-4bf/2-1,4c2-4ce/2-1,4cf-4cf/1-f,4d1-52f/2-1,",
    "561-586/1-30,10d0-10fa/1+bc0,10fd-10ff/1+bc0,13f8-13fd/1-8,1c80-1c80/1-186e,",
    "1c81-1c81/1-186d,1c82-1c82/1-1864,1c83-1c84/1-1862,1c85-1c85/1-1863,1c86-1c86/1-185c,",
    "1c87-1c87/1-1825,1c88-1c88/1+89c2,1d79-1d79/1+8a04,1d7d-1d7d/1+ee6,1d8e-1d8e/1+8a38,",
    "1e01-1e95/2-1,1e9b-1e9b/1-3b,1ea1-1eff/2-1,1f00-1f07/1+8,1f10-1f15/1+8,1f20-1f27/1+8,",
    "1f30-1f37/1+8,1f40-1f45/1+8,1f51-1f57/2+8,1f60-1f67/1+8,1f70-1f71/1+4a,1f72-1f75/1+56,",
    "1f76-1f77/1+64,1f78-1f79/1+80,1f7a-1f7b/1+70,1f7c-1f7d/1+7e,1f80-1f87/1+8,",
    "1f90-1f97/1+8,1fa0-1fa7/1+8,1fb0-1fb1/1+8,1fb3-1fb3/1+9,1fbe-1fbe/1-1c25,1fc3-1fc3/1+9,",
    "1fd0-1fd1/1+8,1fe0-1fe1/1+8,1fe5-1fe5/1+7,1ff3-1ff3/1+9,214e-214e/1-1c,2170-217f/1-10,",
    "2184-2184/1-1,24d0-24e9/1-1a,2c30-2c5f/1-30,2c61-2c61/1-1,2c65-2c65/1-2a2b,",
    "2c66-2c66/1-2a28,2c68-2c6c/2-1,2c73-2c76/3-1,2c81-2ce3/2-1,2cec-2cee/2-1,2cf3-2cf3/1-1,",
    "2d00-2d25/1-1c60,2d27-2d2d/6-1c60,a641-a66d/2-1,a681-a69b/2-1,a723-a72f/2-1,",
    "a733-a76f/2-1,a77a-a77c/2-1,a77f-a787/2-1,a78c-a791/5-1,a793-a793/1-1,a794-a794/1+30,",
    "a797-a7a9/2-1,a7b5-a7c3/2-1,a7c8-a7ca/2-1,a7d1-a7d7/6-1,a7d9-a7f6/1d-1,ab53-ab53/1-3a0,",
    "ab70-abbf/1-97d0,ff41-ff5a/1-20,10428-1044f/1-28,104d8-104fb/1-28,10597-105a1/1-27,",
    "105a3-105b1/1-27,105b3-105b9/1-27,105bb-105bc/1-27,10cc0-10cf2/1-40,118c0-118df/1-20,",
    "16e60-16e7f/1-20,1e922-1e943/1-22"]

/-- The lower-case mapping, in the same runs. -/
def lowerRunTable : String :=
  String.join [
    "41-5a/1+20,c0-d6/1+20,d8-de/1+20,100-12e/2+1,130-130/1-c7,132-136/2+1,139-147/2+1,",
    "14a-176/2+1,178-178/1-79,179-17d/2+1,181-181/1+d2,182-184/2+1,186-186/1+ce,187-187/1+1,",
    "189-18a/1+cd,18b-18b/1+1,18e-18e/1+4f,18f-18f/1+ca,190-190/1+cb,191-191/1+1,",
    "193-193/1+cd,194-194/1+cf,196-196/1+d3,197-197/1+d1,198-198/1+1,19c-19c/1+d3,",
    "19d-19d/1+d5,19f-19f/1+d6,1a0-1a4/2+1,1a6-1a6/1+da,1a7-1a7/1+1,1a9-1a9/1+da,",
    "1ac-1ac/1+1,1ae-1ae/1+da,1af-1af/1+1,1b1-1b2/1+d9,1b3-1b5/2+1,1b7-1b7/1+db,1b8-1bc/4+1,",
    "1c4-1c4/1+2,1c5-1c5/1+1,1c7-1c7/1+2,1c8-1c8/1+1,1ca-1ca/1+2,1cb-1db/2+1,1de-1ee/2+1,",
    "1f1-1f1/1+2,1f2-1f4/2+1,1f6-1f6/1-61,1f7-1f7/1-38,1f8-21e/2+1,220-220/1-82,222-232/2+1,",
    "23a-23a/1+2a2b,23b-23b/1+1,23d-23d/1-a3,23e-23e/1+2a28,241-241/1+1,243-243/1-c3,",
    "244-244/1+45,245-245/1+47,246-24e/2+1,370-372/2+1,376-376/1+1,37f-37f/1+74,",
    "386-386/1+26,388-38a/1+25,38c-38c/1+40,38e-38f/1+3f,391-3a1/1+20,3a3-3ab/1+20,",
    "3cf-3cf/1+8,3d8-3ee/2+1,3f4-3f4/1-3c,3f7-3f7/1+1,3f9-3f9/1-7,3fa-3fa/1+1,3fd-3ff/1-82,",
    "400-40f/1+50,410-42f/1+20,460-480/2+1,48a-4be/2+1,4c0-4c0/1+f,4c1-4cd/2+1,4d0-52e/2+1,",
    "531-556/1+30,10a0-10c5/1+1c60,10c7-10cd/6+1c60,13a0-13ef/1+97d0,13f0-13f5/1+8,",
    "1c90-1cba/1-bc0,1cbd-1cbf/1-bc0,1e00-1e94/2+1,1e9e-1e9e/1-1dbf,1ea0-1efe/2+1,",
    "1f08-1f0f/1-8,1f18-1f1d/1-8,1f28-1f2f/1-8,1f38-1f3f/1-8,1f48-1f4d/1-8,1f59-1f5f/2-8,",
    "1f68-1f6f/1-8,1f88-1f8f/1-8,1f98-1f9f/1-8,1fa8-1faf/1-8,1fb8-1fb9/1-8,1fba-1fbb/1-4a,",
    "1fbc-1fbc/1-9,1fc8-1fcb/1-56,1fcc-1fcc/1-9,1fd8-1fd9/1-8,1fda-1fdb/1-64,1fe8-1fe9/1-8,",
    "1fea-1feb/1-70,1fec-1fec/1-7,1ff8-1ff9/1-80,1ffa-1ffb/1-7e,1ffc-1ffc/1-9,",
    "2126-2126/1-1d5d,212a-212a/1-20bf,212b-212b/1-2046,2132-2132/1+1c,2160-216f/1+10,",
    "2183-2183/1+1,24b6-24cf/1+1a,2c00-2c2f/1+30,2c60-2c60/1+1,2c62-2c62/1-29f7,",
    "2c63-2c63/1-ee6,2c64-2c64/1-29e7,2c67-2c6b/2+1,2c6d-2c6d/1-2a1c,2c6e-2c6e/1-29fd,",
    "2c6f-2c6f/1-2a1f,2c70-2c70/1-2a1e,2c72-2c75/3+1,2c7e-2c7f/1-2a3f,2c80-2ce2/2+1,",
    "2ceb-2ced/2+1,2cf2-a640/794e+1,a642-a66c/2+1,a680-a69a/2+1,a722-a72e/2+1,a732-a76e/2+1,",
    "a779-a77b/2+1,a77d-a77d/1-8a04,a77e-a786/2+1,a78b-a78b/1+1,a78d-a78d/1-a528,",
    "a790-a792/2+1,a796-a7a8/2+1,a7aa-a7aa/1-a544,a7ab-a7ab/1-a54f,a7ac-a7ac/1-a54b,",
    "a7ad-a7ad/1-a541,a7ae-a7ae/1-a544,a7b0-a7b0/1-a512,a7b1-a7b1/1-a52a,a7b2-a7b2/1-a515,",
    "a7b3-a7b3/1+3a0,a7b4-a7c2/2+1,a7c4-a7c4/1-30,a7c5-a7c5/1-a543,a7c6-a7c6/1-8a38,",
    "a7c7-a7c9/2+1,a7d0-a7d6/6+1,a7d8-a7f5/1d+1,ff21-ff3a/1+20,10400-10427/1+28,",
    "104b0-104d3/1+28,10570-1057a/1+27,1057c-1058a/1+27,1058c-10592/1+27,10594-10595/1+27,",
    "10c80-10cb2/1+40,118a0-118bf/1+20,16e40-16e5f/1+20,1e900-1e921/1+22"]

def letters : Array (Nat × Nat) := readIntervals letterTable

/-- The intervals of upper-case letters without a lower-case form. -/
def upperOnly : Array (Nat × Nat) := readIntervals upperOnlyTable

/-- The intervals of lower-case letters without an upper-case form. -/
def lowerOnly : Array (Nat × Nat) := readIntervals lowerOnlyTable

def printables : Array (Nat × Nat) := readIntervals printableTable

def printOnly : Array (Nat × Nat) := readIntervals printOnlyTable

def zeroWidths : Array (Nat × Nat) := readIntervals zeroWidthTable

def doubleWidths : Array (Nat × Nat) := readIntervals doubleWidthTable

def upperRuns : Array (Nat × Nat × Nat × Int) := readRuns upperRunTable

def lowerRuns : Array (Nat × Nat × Nat × Int) := readRuns lowerRunTable

/-! ## Case -/

/-- A character through a table of mapping runs. -/
def mapThrough (runs : Array (Nat × Nat × Nat × Int)) (c : Char) : Char :=
  if isRaw c then c
  else
    let n := c.toNat
    match findEntry runs (fun (a, b, _, _) => (a, b)) n 0 runs.size with
    | some (a, _, step, offset) =>
      if (n - a) % step = 0 then Char.ofNat (n + offset).toNat else c
    | none => c

def toUpper (c : Char) : Char := mapThrough upperRuns c

def toLower (c : Char) : Char := mapThrough lowerRuns c

/-! ## Classes -/

def isAlpha (c : Char) : Bool := ¬ isRaw c ∧ inTable letters c.toNat

/-- Whether a character is a decimal digit: only the ASCII digits are. -/
def isDigit (c : Char) : Bool := '0' ≤ c ∧ c ≤ '9'

/-- Whether a character is a letter or a digit. -/
def isAlnum (c : Char) : Bool := isAlpha c || isDigit c

/-- Whether a character is an upper-case letter: it has a lower-case form, or it is one of the
upper-case letters that have none. -/
def isUpper (c : Char) : Bool := ¬ isRaw c ∧ (toLower c ≠ c ∨ inTable upperOnly c.toNat)

/-- Whether a character is a lower-case letter: it has an upper-case form, or it is one of the
lower-case letters that have none. -/
def isLower (c : Char) : Bool := ¬ isRaw c ∧ (toUpper c ≠ c ∨ inTable lowerOnly c.toNat)

/-- Whether a character is white space: the ASCII tab to carriage return and space, and the
Unicode spaces that do not forbid a line break. -/
def isSpace (c : Char) : Bool :=
  let n := c.toNat
  (9 ≤ n ∧ n ≤ 13) ∨ n = 32 ∨ n = 0x1680 ∨ (0x2000 ≤ n ∧ n ≤ 0x2006) ∨
    (0x2008 ≤ n ∧ n ≤ 0x200A) ∨ n = 0x2028 ∨ n = 0x2029 ∨ n = 0x205F ∨ n = 0x3000

/-- Whether a character is a blank: the white space that does not end a line. -/
def isBlank (c : Char) : Bool :=
  let n := c.toNat
  n = 9 ∨ n = 32 ∨ n = 0x1680 ∨ (0x2000 ≤ n ∧ n ≤ 0x2006) ∨ (0x2008 ≤ n ∧ n ≤ 0x200A) ∨
    n = 0x205F ∨ n = 0x3000

/-- Whether a character is a control character. -/
def isCntrl (c : Char) : Bool :=
  let n := c.toNat
  n < 32 ∨ (127 ≤ n ∧ n ≤ 159) ∨ n = 0x2028 ∨ n = 0x2029

/-- Whether a character is printable: printable in a quoted literal, or one of the printable
characters that a quoted literal escapes. -/
def isPrint (c : Char) : Bool :=
  ¬ isRaw c ∧ (inTable printables c.toNat ∨ inTable printOnly c.toNat)

/-- Whether a character is printable and not white space. -/
def isGraph (c : Char) : Bool := isPrint c && !isSpace c

/-- Whether a character is punctuation: graphic, and neither a letter nor a digit. -/
def isPunct (c : Char) : Bool := isGraph c && !isAlnum c

/-- Whether a character is a hexadecimal digit. -/
def isXDigit (c : Char) : Bool := isDigit c || ('a' ≤ c ∧ c ≤ 'f') || ('A' ≤ c ∧ c ≤ 'F')

/-- Whether a character belongs to the class of a bracket expression's `[:name:]`. -/
def inClass (name : String) (c : Char) : Bool :=
  match name with
  | "alpha" => isAlpha c
  | "digit" => isDigit c
  | "alnum" => isAlnum c
  | "upper" => isUpper c
  | "lower" => isLower c
  | "space" => isSpace c
  | "blank" => isBlank c
  | "punct" => isPunct c
  | "print" => isPrint c
  | "graph" => isGraph c
  | "cntrl" => isCntrl c
  | "xdigit" => isXDigit c
  | _ => false

/-- Whether two characters are equal when case is ignored. -/
def sameIgnoringCase (a b : Char) : Bool :=
  a == b || toLower a == toLower b || toUpper a == toUpper b

/-- The columns a character takes on a terminal: none for one that is not printable, 0 for a
combining mark, 2 for a wide East Asian character, 1 otherwise. -/
def width? (c : Char) : Option Nat :=
  if ¬ isPrint c then none
  else if inTable zeroWidths c.toNat then some 0
  else if inTable doubleWidths c.toNat then some 2
  else some 1

end SqlMigration.Text.Unicode
