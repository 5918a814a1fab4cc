import Grounding.Decimal.Stepwise
import Grounding.Json
import Grounding.Json.Fault
import Grounding.Text.CodePoint

/-! The tokens of a JSON text: marks, strings with their escapes resolved, and the other scalar
values. Blanks between tokens are skipped. -/

namespace Grounding.Json

inductive Token
  | openArray
  | closeArray
  | openObject
  | closeObject
  | colon
  | comma
  | string (value : String)
  /-- Null, a boolean or a number. -/
  | scalar (value : Json)

namespace Token

def isBlank (c : Char) : Bool :=
  c == ' ' || c == '\t' || c == '\n' || c == '\r'

/-- Four hexadecimal digits. -/
def scanUnit : List Char → Except Fault (Nat × List Char)
  | a :: b :: c :: d :: rest =>
    match Text.hexValue? a, Text.hexValue? b, Text.hexValue? c, Text.hexValue? d with
    | some a, some b, some c, some d => .ok (((a * 16 + b) * 16 + c) * 16 + d, rest)
    | _, _, _, _ => .error .badEscape
  | _ => .error .endOfText

/-- A character given by its code point, or by the two halves of a surrogate pair. -/
def scanCodePoint (chars : List Char) : Except Fault (Char × List Char) := do
  let (unit, rest) ← scanUnit chars
  if 0xd800 ≤ unit ∧ unit ≤ 0xdbff then
    match rest with
    | '\\' :: 'u' :: rest =>
      let (low, rest) ← scanUnit rest
      if 0xdc00 ≤ low ∧ low ≤ 0xdfff then
        .ok (Char.ofNat (0x10000 + (unit - 0xd800) * 0x400 + (low - 0xdc00)), rest)
      else .error .loneSurrogate
    | _ => .error .loneSurrogate
  else if 0xdc00 ≤ unit ∧ unit ≤ 0xdfff then .error .loneSurrogate
  else .ok (Char.ofNat unit, rest)

/-- What follows a backslash. -/
def scanEscape : List Char → Except Fault (Char × List Char)
  | '"' :: rest => .ok ('"', rest)
  | '\\' :: rest => .ok ('\\', rest)
  | '/' :: rest => .ok ('/', rest)
  | 'b' :: rest => .ok ('\x08', rest)
  | 'f' :: rest => .ok ('\x0c', rest)
  | 'n' :: rest => .ok ('\n', rest)
  | 'r' :: rest => .ok ('\r', rest)
  | 't' :: rest => .ok ('\t', rest)
  | 'u' :: rest => scanCodePoint rest
  | [] => .error .endOfText
  | _ => .error .badEscape

/-- One character of a string. -/
def scanChar : List Char → Except Fault (Char × List Char)
  | '\\' :: rest => scanEscape rest
  | c :: rest => if c.toNat < 0x20 then .error .controlCharacter else .ok (c, rest)
  | [] => .error .endOfText

theorem scanUnit_length {chars rest : List Char} {n : Nat}
    (h : scanUnit chars = .ok (n, rest)) : rest.length < chars.length := by
  unfold scanUnit at h
  split at h
  · split at h <;> simp_all
    omega
  · simp at h

theorem scanCodePoint_length {chars rest : List Char} {c : Char}
    (h : scanCodePoint chars = .ok (c, rest)) : rest.length < chars.length := by
  unfold scanCodePoint at h
  cases hu : scanUnit chars with
  | error e => simp [hu, bind, Except.bind] at h
  | ok p =>
    obtain ⟨unit, after⟩ := p
    have hlen := scanUnit_length hu
    simp only [hu, bind, Except.bind] at h
    split at h
    · split at h
      · rename_i low
        cases hl : scanUnit low with
        | error e => simp [hl] at h
        | ok q =>
          obtain ⟨unit', after'⟩ := q
          have hlen' := scanUnit_length hl
          simp only [hl] at h
          split at h
          · simp only [Except.ok.injEq, Prod.mk.injEq] at h
            simp only [List.length_cons] at hlen
            rw [← h.2]
            omega
          · simp at h
      · simp at h
    · split at h
      · simp at h
      · simp only [Except.ok.injEq, Prod.mk.injEq] at h
        rw [← h.2]
        exact hlen

theorem scanEscape_length {chars rest : List Char} {c : Char}
    (h : scanEscape chars = .ok (c, rest)) : rest.length < chars.length := by
  unfold scanEscape at h
  split at h
  case h_9 =>
    have := scanCodePoint_length h
    simp only [List.length_cons]
    omega
  all_goals simp_all

theorem scanChar_length {chars rest : List Char} {c : Char}
    (h : scanChar chars = .ok (c, rest)) : rest.length < chars.length := by
  unfold scanChar at h
  split at h
  · have := scanEscape_length h
    simp only [List.length_cons]
    omega
  · split at h <;> simp_all
  · simp at h

/-- The characters of a string up to its closing quote, and what follows. -/
def scanString (chars : List Char) : Except Fault (List Char × List Char) :=
  match chars with
  | '"' :: rest => .ok ([], rest)
  | chars =>
    match h : scanChar chars with
    | .error e => .error e
    | .ok (c, rest) =>
      have := scanChar_length h
      match scanString rest with
      | .error e => .error e
      | .ok (cs, rest) => .ok (c :: cs, rest)
termination_by chars.length

/-- An integer that fits 64 bits, with or without sign; zero with a minus sign is no integer. -/
def int? (negative : Bool) (n : Nat) : Option Json :=
  if negative then
    if h : 0 < n ∧ n ≤ 0x8000000000000000 then some (.int ⟨-(n : Int), by omega⟩) else none
  else if h : n < 0x10000000000000000 then some (.int ⟨n, by omega⟩) else none

/-- The value of a written number. -/
def ofLiteral (negative : Bool) (l : Literal) : Except Fault Json :=
  if l.whole = [] ∨ l.isComplete = false ∨ l.whole.head? = some '0' ∧ l.whole ≠ ['0'] then
    .error .badNumeral
  else
    let exact : Option Json :=
      if l.fraction = none ∧ l.exponent = none then
        int? negative (Nat.ofDigitChars 10 l.whole 0)
      else none
    match exact with
    | some v => .ok v
    | none =>
      match l.clipped.readStepwise negative with
      | .finite x => .ok (.float x)
      | _ => .error .numberOutOfRange

/-- A number, which starts with a digit or a minus sign. -/
def scanNumber (chars : List Char) : Except Fault (Token × List Char) :=
  let (negative, digits) :=
    match chars with
    | '-' :: rest => (true, rest)
    | chars => (false, chars)
  let (literal, rest) := Literal.scan digits
  match ofLiteral negative literal with
  | .ok v => .ok (scalar v, rest)
  | .error e => .error e

/-- The token at the start of a text that does not start with a blank. -/
def scan : List Char → Except Fault (Token × List Char)
  | '[' :: rest => .ok (openArray, rest)
  | ']' :: rest => .ok (closeArray, rest)
  | '\x7b' :: rest => .ok (openObject, rest)
  | '\x7d' :: rest => .ok (closeObject, rest)
  | ':' :: rest => .ok (colon, rest)
  | ',' :: rest => .ok (comma, rest)
  | '"' :: rest =>
    match scanString rest with
    | .ok (cs, rest) => .ok (string (String.ofList cs), rest)
    | .error e => .error e
  | 'n' :: 'u' :: 'l' :: 'l' :: rest => .ok (scalar .null, rest)
  | 't' :: 'r' :: 'u' :: 'e' :: rest => .ok (scalar (.bool true), rest)
  | 'f' :: 'a' :: 'l' :: 's' :: 'e' :: rest => .ok (scalar (.bool false), rest)
  | c :: rest =>
    if c.isDigit ∨ c = '-' then scanNumber (c :: rest) else .error (.unexpected c)
  | [] => .error .endOfText

theorem scanString_length {chars rest cs : List Char}
    (h : scanString chars = .ok (cs, rest)) : rest.length < chars.length := by
  fun_induction scanString chars generalizing cs rest with
  | case1 => simp_all
  | case2 => simp at h
  | case3 => simp at h
  | case4 chars _ c mid hc _ ds tail hs ih =>
    have hchar := scanChar_length hc
    have htail := ih hs
    simp only [Except.ok.injEq, Prod.mk.injEq] at h
    rw [← h.2]
    omega

theorem scanNumber_length {c : Char} {chars rest : List Char} {t : Token}
    (hc : c.isDigit ∨ c = '-') (h : scanNumber (c :: chars) = .ok (t, rest)) :
    rest.length < (c :: chars).length := by
  unfold scanNumber at h
  by_cases hminus : c = '-'
  · subst hminus
    have hlen := Literal.scan_length chars
    have hdrop := (List.dropWhile_suffix (l := chars) Char.isDigit).length_le
    dsimp only at h
    split at h
    · simp only [Except.ok.injEq, Prod.mk.injEq] at h
      rw [← h.2, List.length_cons]
      omega
    · simp at h
  · have hdigit : c.isDigit = true := hc.resolve_right hminus
    have hlen := Literal.scan_length (c :: chars)
    have hdrop := (List.dropWhile_suffix (l := chars) Char.isDigit).length_le
    rw [List.dropWhile_cons_of_pos hdigit] at hlen
    split at h
    · rename_i heq
      split at heq
      · simp_all
      · simp only [Prod.mk.injEq] at heq
        obtain ⟨-, rfl⟩ := heq
        dsimp only at h
        split at h
        · simp only [Except.ok.injEq, Prod.mk.injEq] at h
          rw [← h.2, List.length_cons]
          omega
        · simp at h

theorem scan_length {chars rest : List Char} {t : Token}
    (h : scan chars = .ok (t, rest)) : rest.length < chars.length := by
  unfold scan at h
  split at h
  case h_7 =>
    split at h
    · rename_i hs
      have := scanString_length hs
      simp only [Except.ok.injEq, Prod.mk.injEq] at h
      rw [← h.2, List.length_cons]
      omega
    · simp at h
  case h_11 =>
    split at h
    · rename_i hc
      exact scanNumber_length hc h
    · simp at h
  all_goals simp_all <;> omega

/-- All tokens of a text. -/
def all (chars : List Char) : Except Fault (List Token) :=
  match chars with
  | [] => .ok []
  | c :: rest =>
    if isBlank c then all rest
    else
      match h : scan (c :: rest) with
      | .error e => .error e
      | .ok (t, rest) =>
        have := scan_length h
        match all rest with
        | .error e => .error e
        | .ok ts => .ok (t :: ts)
termination_by chars.length
decreasing_by
  all_goals simp only [List.length_cons] at *
  all_goals omega

end Token

end Grounding.Json
