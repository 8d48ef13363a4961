import UsageReports.Text.Split

/-!
# Punycode

Text beyond ASCII in ASCII. The ASCII characters come first; after a dash, numbers tell one after
the other which further character goes where. A number is written in base 36 with digits of a
changing threshold, the lowest digit first; a digit below its threshold ends the number.
-/

namespace UsageReports.Punycode

/-- The character of a digit. -/
def digitChar (d : Nat) : Char := if d < 26 then Char.ofNat (97 + d) else Char.ofNat (22 + d)

/-- The digit of a character. -/
def digitOf? (c : Char) : Option Nat :=
  let n := c.toLower.toNat
  if 97 ≤ n ∧ n ≤ 122 then some (n - 97)
  else if 48 ≤ n ∧ n ≤ 57 then some (n - 22)
  else none

/-- The threshold of a digit, for a bias. -/
def threshold (place bias : Nat) : Nat := max 1 (min 26 (place - bias))

theorem one_le_threshold (place bias : Nat) : 1 ≤ threshold place bias := by
  simp only [threshold]; omega

/-- Divide by 35 until at most 455 is left, and count 36 for each time. -/
def reduced (n : Nat) : Nat × Nat :=
  if 455 < n then
    let (rest, count) := reduced (n / 35)
    (rest, count + 36)
  else (n, 0)
termination_by n
decreasing_by omega

/-- The bias after a number was written; `count` characters are there then. -/
def adapted (number count : Nat) (isFirst : Bool) : Nat :=
  let n := if isFirst then number / 700 else number / 2
  let (rest, bias) := reduced (n + n / count)
  bias + 36 * rest / (rest + 38)

/-- A number from a place on. -/
def numberChars (bias place n : Nat) : List Char :=
  let t := threshold place bias
  if n < t then [digitChar n]
  else digitChar (t + (n - t) % (36 - t)) :: numberChars bias (place + 36) ((n - t) / (36 - t))
termination_by n
decreasing_by
  have h1 := one_le_threshold place bias
  have h2 := Nat.div_le_self (n - threshold place bias) (36 - threshold place bias)
  omega

/-! ## Writing -/

/-- Where writing has come to: the number that is to be written next, the bias, and how many
characters are there. -/
structure Writing where
  delta : Nat := 0
  bias : Nat := 72
  count : Nat

/-- Pass a text once, writing where a character goes. A lesser one makes the number greater. -/
def writeOne (basic : Nat) (c : Char) : Writing → List Char → List Char × Writing
  | w, [] => ([], w)
  | w, d :: ds =>
    if d < c then writeOne basic c { w with delta := w.delta + 1 } ds
    else if d = c then
      let written := numberChars w.bias 36 w.delta
      let next : Writing :=
        { delta := 0, bias := adapted w.delta (w.count + 1) (w.count == basic), count := w.count + 1 }
      let (more, w) := writeOne basic c next ds
      (written ++ more, w)
    else writeOne basic c w ds

/-- Write where each of some characters goes, in their order; `next` is one more than the last. -/
def writeAll (basic : Nat) (text : List Char) : Nat → Writing → List Char → List Char
  | _, _, [] => []
  | next, w, c :: cs =>
    let w := { w with delta := w.delta + (c.toNat - next) * (w.count + 1) }
    let (written, w) := writeOne basic c w text
    written ++ writeAll basic text (c.toNat + 1) { w with delta := w.delta + 1 } cs

/-- The characters beyond ASCII in a text, in order and each once. -/
def beyondAscii (text : List Char) : List Char :=
  ((text.filter (128 ≤ ·.toNat)).mergeSort fun a b => a ≤ b).eraseReps

/-- The form of a text in ASCII. -/
def encode (text : List Char) : List Char :=
  let basic := text.filter (·.toNat < 128)
  basic ++ (if basic = [] then [] else ['-']) ++
    writeAll basic.length text 128 { count := basic.length } (beyondAscii text)

/-! ## Reading -/

/-- Read a number from a place on, and give what follows it. -/
def number? (bias place weight : Nat) : List Char → Option (Nat × List Char)
  | [] => none
  | c :: cs => do
    let d ← digitOf? c
    let t := threshold place bias
    if d < t then pure (d * weight, cs)
    else
      let (n, rest) ← number? bias (place + 36) (weight * (36 - t)) cs
      pure (d * weight + n, rest)

/-- What follows a number is shorter. -/
theorem length_of_number? {bias place weight n : Nat} {cs rest : List Char}
    (h : number? bias place weight cs = some (n, rest)) : rest.length < cs.length := by
  induction cs generalizing place weight n with
  | nil => simp [number?] at h
  | cons c cs ih =>
    simp only [number?, Option.bind_eq_bind, Option.bind_eq_some_iff] at h
    obtain ⟨d, -, h⟩ := h
    split at h
    · simp only [Option.pure_def, Option.some.injEq, Prod.mk.injEq] at h
      simp [h.2]
    · simp only [Option.bind_eq_some_iff, Prod.exists, Option.pure_def, Option.some.injEq,
        Prod.mk.injEq] at h
      obtain ⟨n', rest', h, -, rfl⟩ := h
      have := ih h
      simp only [List.length_cons]
      omega

/-- Read the numbers that put further characters into a text. `char` and `place` are where the last
one came to. -/
def insertAll? (bias char place : Nat) (text cs : List Char) : Option (List Char) :=
  match cs with
  | [] => some text
  | c :: cs =>
    match h : number? bias 36 1 (c :: cs) with
    | none => none
    | some (n, rest) =>
      let count := text.length + 1
      let char := char + (place + n) / count
      let here := (place + n) % count
      if char.isValidChar then
        insertAll? (adapted n count (place == 0)) char (here + 1)
          (text.insertIdx here (Char.ofNat char)) rest
      else none
termination_by cs.length
decreasing_by
  have := length_of_number? h
  simpa using this

/-- The text of a form in ASCII. -/
def decode? (cs : List Char) : Option (List Char) :=
  let (basic, numbers) := splitAtLast '-' cs
  insertAll? 72 128 0 (basic.getD []) numbers

end UsageReports.Punycode
