/-!
# UTF-8

Texts as bytes. `decodeStep` reads one character, or finds the longest ill-formed part that could
have begun one. `decode?` accepts well-formed bytes only; `decodeLossy` puts the replacement
character in the place of every ill-formed part.

Main statement: `decodeStep_length_lt`, a step always consumes something, which is why both
decoders end.
-/

namespace FragmentRunner.Text.Utf8

/-- The bytes of a text. -/
def encode (s : List Char) : List UInt8 :=
  s.flatMap String.utf8EncodeChar

/-- The character that stands for an ill-formed part. -/
def replacement : Char := '\uFFFD'

/-- Whether `b` continues a character of several bytes. -/
def isContinuation (b : UInt8) : Bool :=
  0x80 ≤ b && b ≤ 0xBF

/-- The six bits that a continuation byte carries. -/
def payload (b : UInt8) : Nat :=
  b.toNat % 0x40

/-- The second bytes that may follow `lead` in a character of three bytes: the range excludes
overlong forms and surrogates. -/
def secondOfThree (lead b : UInt8) : Bool :=
  (if lead = 0xE0 then 0xA0 else 0x80) ≤ b && b ≤ (if lead = 0xED then 0x9F else 0xBF)

/-- The second bytes that may follow `lead` in a character of four bytes: the range excludes
overlong forms and code points past the last one. -/
def secondOfFour (lead b : UInt8) : Bool :=
  (if lead = 0xF0 then 0x90 else 0x80) ≤ b && b ≤ (if lead = 0xF4 then 0x8F else 0xBF)

/-- What the bytes `lead :: rest` begin with: a character, or `none` for an ill-formed part; and
the bytes after it. -/
def decodeStep (lead : UInt8) (rest : List UInt8) : Option Char × List UInt8 :=
  -- An ill-formed part ends before the first byte that cannot continue it, and that byte is read
  -- again as the beginning of something else.
  if lead < 0x80 then (some (Char.ofNat lead.toNat), rest)
  -- The leads `C0` and `C1` would only begin overlong forms.
  else if 0xC2 ≤ lead && lead ≤ 0xDF then
    match rest with
    | b :: rest =>
      if isContinuation b then
        (some (Char.ofNat ((lead.toNat - 0xC0) * 0x40 + payload b)), rest)
      else (none, b :: rest)
    | [] => (none, [])
  else if 0xE0 ≤ lead && lead ≤ 0xEF then
    match rest with
    | b :: c :: rest =>
      if secondOfThree lead b then
        if isContinuation c then
          (some (Char.ofNat ((lead.toNat - 0xE0) * 0x1000 + payload b * 0x40 + payload c)), rest)
        else (none, c :: rest)
      else (none, b :: c :: rest)
    | [b] => if secondOfThree lead b then (none, []) else (none, [b])
    | [] => (none, [])
  else if 0xF0 ≤ lead && lead ≤ 0xF4 then
    match rest with
    | b :: c :: d :: rest =>
      if secondOfFour lead b then
        if isContinuation c then
          if isContinuation d then
            (some (Char.ofNat ((lead.toNat - 0xF0) * 0x40000 + payload b * 0x1000
              + payload c * 0x40 + payload d)), rest)
          else (none, d :: rest)
        else (none, c :: d :: rest)
      else (none, b :: c :: d :: rest)
    | [b, c] =>
      if secondOfFour lead b then
        if isContinuation c then (none, []) else (none, [c])
      else (none, [b, c])
    | [b] => if secondOfFour lead b then (none, []) else (none, [b])
    | [] => (none, [])
  else (none, rest)

theorem decodeStep_length_le (lead : UInt8) (rest : List UInt8) :
    (decodeStep lead rest).2.length ≤ rest.length := by
  unfold decodeStep
  repeat' split
  all_goals simp only [List.length_cons, List.length_nil]; omega

theorem decodeStep_length_lt (lead : UInt8) (rest : List UInt8) :
    (decodeStep lead rest).2.length < (lead :: rest).length := by
  have := decodeStep_length_le lead rest
  simp only [List.length_cons]
  omega

/-- The characters that the bytes encode, with `replacement` for every ill-formed part. -/
def decodeLossy : List UInt8 → List Char
  | [] => []
  | lead :: rest =>
    (decodeStep lead rest).1.getD replacement :: decodeLossy (decodeStep lead rest).2
termination_by bytes => bytes.length
decreasing_by exact decodeStep_length_lt lead rest

/-- The characters that the bytes encode, if all of them are well formed. -/
def decode? : List UInt8 → Option (List Char)
  | [] => some []
  | lead :: rest =>
    match (decodeStep lead rest).1 with
    | none => none
    | some c => (decode? (decodeStep lead rest).2).map (c :: ·)
termination_by bytes => bytes.length
decreasing_by exact decodeStep_length_lt lead rest

end FragmentRunner.Text.Utf8
