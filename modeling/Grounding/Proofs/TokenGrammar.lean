import Grounding.Json.Reader
import Grounding.Proofs.NamedEntries

/-! The grammar of JSON documents over tokens. The reader takes a list of tokens exactly when the
tokens spell a value whose nesting is within the limit, and then it gives that value. In an object
each repeated name keeps its first place and its last value. -/

namespace Grounding.Json

/-- Null, a boolean or a number. -/
def IsScalar : Json → Prop
  | null | bool _ | int _ | float _ => True
  | _ => False

/-- Tokens beside the value they spell. -/
structure Spelling where
  tokens : List Token
  value : Json

/-- The tokens of a member. -/
def memberTokens (member : String × Spelling) : List Token :=
  .string member.1 :: .colon :: member.2.tokens

/-- The members of an object, each repeated name once. -/
def settled (members : List (String × Spelling)) : List (String × Json) :=
  Entries.ofList (members.map fun member => (member.1, member.2.value))

/-- The tokens spell the value, which nests at most `n` arrays and objects. -/
inductive Spells : Nat → List Token → Json → Prop
  | scalar {n : Nat} {v : Json} (h : v.IsScalar) : Spells n [.scalar v] v
  | string {n : Nat} (s : String) : Spells n [.string s] (.string s)
  | array {n : Nat} {items : List Spelling} (h : ∀ s ∈ items, Spells n s.tokens s.value) :
    Spells (n + 1)
      (.openArray :: ([Token.comma].intercalate (items.map Spelling.tokens) ++ [.closeArray]))
      (.array (items.map Spelling.value))
  | object {n : Nat} {members : List (String × Spelling)}
    (h : ∀ m ∈ members, Spells n m.2.tokens m.2.value) :
    Spells (n + 1)
      (.openObject :: ([Token.comma].intercalate (members.map memberTokens) ++ [.closeObject]))
      (.object (settled members))

section

variable {limit n : Nat} {frames : List Frame} {ts us rest : List Token} {v : Json}

theorem exists_intercalate_cons (ts : List Token) (parts : List (List Token)) :
    ∃ us, [Token.comma].intercalate (ts :: parts) = ts ++ us := by
  cases parts with
  | nil => exact ⟨[], by simp⟩
  | cons part parts => exact ⟨_, by rw [List.intercalate_cons_cons, List.append_assoc]⟩

theorem Spells.exists_head (h : Spells n ts v) : ∃ t us, ts = t :: us ∧ t ≠ .closeArray := by
  cases h with
  | scalar | string | array | object => exact ⟨_, _, rfl, by simp⟩

namespace Reader

/-- What stands first in an array is read like what stands after a comma. -/
theorem run_firstItem {item : Spelling} {items : List Spelling}
    (h : Spells n item.tokens item.value) :
    run limit (firstItem frames)
        ([Token.comma].intercalate ((item :: items).map Spelling.tokens) ++ rest) =
      run limit (value (.array [] :: frames))
        ([Token.comma].intercalate ((item :: items).map Spelling.tokens) ++ rest) := by
  obtain ⟨us, hus⟩ := exists_intercalate_cons item.tokens (items.map Spelling.tokens)
  obtain ⟨t, ts, htokens, ht⟩ := h.exists_head
  rw [List.map_cons, hus, htokens]
  cases t with
  | closeArray => exact absurd rfl ht
  | openArray | openObject | closeObject | colon | comma | string | scalar => rfl

theorem run_firstName {member : String × Spelling} {members : List (String × Spelling)} :
    run limit (firstName frames)
        ([Token.comma].intercalate ((member :: members).map memberTokens) ++ rest) =
      run limit (nextName [] frames)
        ([Token.comma].intercalate ((member :: members).map memberTokens) ++ rest) := by
  obtain ⟨us, hus⟩ := exists_intercalate_cons (memberTokens member) (members.map memberTokens)
  rw [List.map_cons, hus]
  rfl

/-- The items of an array, each of which is read as a value, up to the end of the array. -/
theorem run_items {item : Spelling} {items : List Spelling} {done : List Json}
    (h : ∀ s ∈ item :: items, ∀ done rest,
      run limit (value (.array done :: frames)) (s.tokens ++ rest) =
        run limit (complete s.value (.array done :: frames)) rest) :
    run limit (value (.array done :: frames))
        ([Token.comma].intercalate ((item :: items).map Spelling.tokens) ++ .closeArray :: rest) =
      run limit (complete (.array (done.reverse ++ (item :: items).map Spelling.value)) frames)
        rest := by
  induction items generalizing item done with
  | nil =>
    have hitem := h item (by simp) done (.closeArray :: rest)
    rw [List.map_singleton, List.intercalate_singleton, hitem, List.map_singleton,
      ← List.reverse_cons]
    rfl
  | cons next items ih =>
    obtain ⟨hitem, hrest⟩ := List.forall_mem_cons.mp h
    rw [List.map_cons, List.map_cons, List.intercalate_cons_cons, ← List.map_cons,
      List.append_assoc, List.append_assoc, List.singleton_append, hitem]
    change run limit (value (.array (item.value :: done) :: frames)) _ = _
    rw [ih hrest, List.reverse_cons, List.append_assoc, List.singleton_append]
    rfl

/-- The members of an object, whose values are read as values, up to the end of the object. -/
theorem run_members {member : String × Spelling} {members : List (String × Spelling)}
    {done : List (String × Json)}
    (h : ∀ m ∈ member :: members, ∀ done rest,
      run limit (value (.object done m.1 :: frames)) (m.2.tokens ++ rest) =
        run limit (complete m.2.value (.object done m.1 :: frames)) rest) :
    run limit (nextName done frames)
        ([Token.comma].intercalate ((member :: members).map memberTokens) ++
          .closeObject :: rest) =
      run limit (complete (.object (((member :: members).map fun m => (m.1, m.2.value)).foldl
        (fun done entry => Entries.assign entry.1 entry.2 done) done)) frames) rest := by
  induction members generalizing member done with
  | nil =>
    have hvalue := h member (by simp) done (.closeObject :: rest)
    rw [List.map_singleton, List.intercalate_singleton]
    change run limit (value (.object done member.1 :: frames)) (member.2.tokens ++ _) = _
    rw [hvalue]
    rfl
  | cons next members ih =>
    obtain ⟨hvalue, hrest⟩ := List.forall_mem_cons.mp h
    rw [List.map_cons, List.map_cons, List.intercalate_cons_cons, ← List.map_cons,
      List.append_assoc, List.append_assoc, List.singleton_append]
    change run limit (value (.object done member.1 :: frames)) (member.2.tokens ++ _) = _
    rw [hvalue]
    change run limit (nextName (Entries.assign member.1 member.2.value done) frames) _ = _
    rw [ih hrest]
    rfl

/-- Tokens that spell a value are read as that value, inside whatever containers are open. -/
theorem run_spells (h : Spells n ts v) (hn : frames.length + n ≤ limit) :
    run limit (value frames) (ts ++ rest) = run limit (complete v frames) rest := by
  induction h generalizing frames rest with
  | scalar | string => rfl
  | @array n items hitems ih =>
    have hopen : start limit frames .openArray = .ok (firstItem frames) := if_pos (by omega)
    rw [List.cons_append, List.append_assoc, List.singleton_append, run, step, hopen]
    cases items with
    | nil => rfl
    | cons item items =>
      refine (run_firstItem (hitems item (by simp))).trans (run_items fun s hs done rest => ?_)
      exact ih s hs (by rw [List.length_cons]; omega)
  | @object n members _ ih =>
    have hopen : start limit frames .openObject = .ok (firstName frames) := if_pos (by omega)
    rw [List.cons_append, List.append_assoc, List.singleton_append, run, step, hopen]
    cases members with
    | nil => rfl
    | cons member members =>
      refine run_firstName.trans (run_members fun m hm done rest => ?_)
      exact ih m hm (by rw [List.length_cons]; omega)

end Reader

/-- The tokens before the next part, each part with the comma that follows it. -/
def followed (parts : List (List Token)) : List Token :=
  parts.flatMap (· ++ [.comma])

theorem intercalate_concat (parts : List (List Token)) (ts : List Token) :
    [Token.comma].intercalate (parts ++ [ts]) = followed parts ++ ts := by
  induction parts with
  | nil => simp [followed]
  | cons part parts ih =>
    have hne : parts ++ [ts] ≠ [] := by simp
    rw [List.cons_append, List.intercalate_cons_of_ne_nil hne, ih]
    simp only [followed, List.flatMap_cons, List.append_assoc]

theorem followed_concat (parts : List (List Token)) (ts : List Token) :
    followed (parts ++ [ts]) = followed parts ++ ts ++ [.comma] := by
  simp [followed]

theorem settled_nil : settled [] = [] :=
  rfl

theorem settled_concat (members : List (String × Spelling)) (name : String) (s : Spelling) :
    settled (members ++ [(name, s)]) = Entries.assign name s.value (settled members) := by
  simp [settled, Entries.ofList]

/-- The tokens of an open container up to its next value, which nests at most `n` levels. -/
inductive Frame.Spells (n : Nat) : Frame → List Token → Prop
  | array {items : List Spelling} (h : ∀ s ∈ items, Json.Spells n s.tokens s.value) :
    Spells n (.array (items.map Spelling.value).reverse)
      (.openArray :: followed (items.map Spelling.tokens))
  | object {members : List (String × Spelling)} (name : String)
    (h : ∀ m ∈ members, Json.Spells n m.2.tokens m.2.value) :
    Spells n (.object (settled members) name)
      (.openObject :: (followed (members.map memberTokens) ++ [.string name, .colon]))

/-- The tokens of all open containers, the outermost one first. -/
inductive Opened (limit : Nat) : List Frame → List Token → Prop
  | nil : Opened limit [] []
  | cons {f : Frame} {frames : List Frame} {ts us : List Token} {n : Nat}
    (h : Opened limit frames ts) (hn : frames.length + n + 1 = limit) (hf : f.Spells n us) :
    Opened limit (f :: frames) (ts ++ us)

/-- The tokens with which a reader has come to its state. -/
inductive Consumed (limit : Nat) : Reader → List Token → Prop
  | value {frames : List Frame} {ts : List Token} (h : Opened limit frames ts) :
    Consumed limit (.value frames) ts
  | firstItem {frames : List Frame} {ts : List Token} {n : Nat} (h : Opened limit frames ts)
    (hn : frames.length + n + 1 = limit) : Consumed limit (.firstItem frames) (ts ++ [.openArray])
  | firstName {frames : List Frame} {ts : List Token} {n : Nat} (h : Opened limit frames ts)
    (hn : frames.length + n + 1 = limit) : Consumed limit (.firstName frames) (ts ++ [.openObject])
  | nextName {frames : List Frame} {ts : List Token} {n : Nat} {members : List (String × Spelling)}
    (h : Opened limit frames ts) (hn : frames.length + n + 1 = limit)
    (hm : ∀ m ∈ members, Spells n m.2.tokens m.2.value) :
    Consumed limit (.nextName (settled members) frames)
      (ts ++ .openObject :: followed (members.map memberTokens))
  | colon {frames : List Frame} {ts : List Token} {n : Nat} {members : List (String × Spelling)}
    (name : String) (h : Opened limit frames ts) (hn : frames.length + n + 1 = limit)
    (hm : ∀ m ∈ members, Spells n m.2.tokens m.2.value) :
    Consumed limit (.colon (settled members) name frames)
      (ts ++ .openObject :: (followed (members.map memberTokens) ++ [.string name]))
  | complete {frames : List Frame} {ts us : List Token} {n : Nat} {v : Json}
    (h : Opened limit frames ts) (hn : frames.length + n = limit) (hv : Spells n us v) :
    Consumed limit (.complete v frames) (ts ++ us)

namespace Reader

theorem length_le_of_opened (h : Opened limit frames ts) : frames.length ≤ limit := by
  cases h with
  | nil => exact Nat.zero_le limit
  | cons _ hn _ =>
    rw [List.length_cons]
    omega

theorem consumed_start {t : Token} {r : Reader} (h : Opened limit frames ts)
    (hscalar : ∀ v, t = .scalar v → v.IsScalar) (hstart : start limit frames t = .ok r) :
    Consumed limit r (ts ++ [t]) := by
  have hle := length_le_of_opened h
  cases t with
  | scalar v =>
    obtain rfl := Except.ok.inj hstart
    exact .complete h (n := limit - frames.length) (by omega) (.scalar (hscalar v rfl))
  | string s =>
    obtain rfl := Except.ok.inj hstart
    exact .complete h (n := limit - frames.length) (by omega) (.string s)
  | openArray =>
    rw [start] at hstart
    split at hstart
    · obtain rfl := Except.ok.inj hstart
      exact .firstItem h (n := limit - frames.length - 1) (by omega)
    · cases hstart
  | openObject =>
    rw [start] at hstart
    split at hstart
    · obtain rfl := Except.ok.inj hstart
      exact .firstName h (n := limit - frames.length - 1) (by omega)
    · cases hstart
  | closeArray | closeObject | colon | comma => cases hstart

theorem forall_concat {α : Type} {p : α → Prop} {as : List α} {a : α} (h : ∀ b ∈ as, p b)
    (ha : p a) : ∀ b ∈ as ++ [a], p b :=
  List.forall_mem_append.mpr ⟨h, List.forall_mem_singleton.mpr ha⟩

theorem consumed_proceed {t : Token} {r : Reader} (h : Opened limit frames ts)
    (hn : frames.length + n = limit) (hv : Spells n us v) (hstep : proceed v frames t = .ok r) :
    Consumed limit r (ts ++ us ++ [t]) := by
  cases h with
  | nil => cases hstep
  | @cons f frames ts opening m h hm hf =>
    rw [List.length_cons] at hn
    obtain rfl : m = n := by omega
    cases hf with
    | @array items hitems =>
      have hall := forall_concat hitems (a := ⟨us, v⟩) hv
      cases t with
      | comma =>
        obtain rfl := Except.ok.inj hstep
        have hopened := Consumed.value (Opened.cons h hm (Frame.Spells.array hall))
        simpa [followed_concat] using hopened
      | closeArray =>
        obtain rfl := Except.ok.inj hstep
        have hcomplete := Consumed.complete h hm (Spells.array hall)
        simpa [intercalate_concat] using hcomplete
      | openArray | openObject | closeObject | colon | string | scalar => cases hstep
    | @object members name hmembers =>
      have hall := forall_concat hmembers (a := (name, ⟨us, v⟩)) hv
      cases t with
      | comma =>
        obtain rfl := Except.ok.inj hstep
        have hnext := Consumed.nextName h hm hall
        simpa [followed_concat, settled_concat, memberTokens] using hnext
      | closeObject =>
        obtain rfl := Except.ok.inj hstep
        have hcomplete := Consumed.complete h hm (Spells.object hall)
        simpa [intercalate_concat, settled_concat, memberTokens] using hcomplete
      | openArray | openObject | closeArray | colon | string | scalar => cases hstep

/-- What one more token makes of the tokens so far. -/
theorem consumed_step {t : Token} {r r' : Reader} (h : Consumed limit r ts)
    (hscalar : ∀ v, t = .scalar v → v.IsScalar) (hstep : r.step limit t = .ok r') :
    Consumed limit r' (ts ++ [t]) := by
  cases h with
  | value h => exact consumed_start h hscalar hstep
  | @firstItem frames ts n h hn =>
    have hopened := Opened.cons h hn (@Frame.Spells.array n [] (by simp))
    cases t with
    | closeArray =>
      obtain rfl := Except.ok.inj hstep
      have hcomplete := Consumed.complete h hn (@Spells.array n [] (by simp))
      simpa using hcomplete
    | openArray | openObject | closeObject | colon | comma | string | scalar =>
      exact consumed_start hopened hscalar hstep
  | @firstName frames ts n h hn =>
    cases t with
    | closeObject =>
      obtain rfl := Except.ok.inj hstep
      have hcomplete := Consumed.complete h hn (@Spells.object n [] (by simp))
      simpa [settled_nil] using hcomplete
    | string name =>
      obtain rfl := Except.ok.inj hstep
      have hcolon := @Consumed.colon limit frames ts n [] name h hn (by simp)
      simpa [followed, settled_nil] using hcolon
    | openArray | openObject | closeArray | colon | comma | scalar => cases hstep
  | @nextName frames ts n members h hn hm =>
    cases t with
    | string name =>
      obtain rfl := Except.ok.inj hstep
      have hcolon := Consumed.colon name h hn hm
      simpa using hcolon
    | openArray | openObject | closeArray | closeObject | colon | comma | scalar => cases hstep
  | @colon frames ts n members name h hn hm =>
    cases t with
    | colon =>
      obtain rfl := Except.ok.inj hstep
      have hopened := Consumed.value (Opened.cons h hn (Frame.Spells.object name hm))
      simpa using hopened
    | openArray | openObject | closeArray | closeObject | comma | string | scalar => cases hstep
  | complete h hn hv => exact consumed_proceed h hn hv hstep

theorem consumed_run {r r' : Reader} (h : Consumed limit r ts)
    (hscalar : ∀ v, .scalar v ∈ us → v.IsScalar) (hrun : run limit r us = .ok r') :
    Consumed limit r' (ts ++ us) := by
  induction us generalizing r ts with
  | nil =>
    obtain rfl := Except.ok.inj hrun
    rwa [List.append_nil]
  | cons t us ih =>
    rw [run] at hrun
    split at hrun
    · rename_i next hstep
      have hnext := consumed_step h (fun v ht => hscalar v (by simp [ht])) hstep
      have hlast := ih hnext (fun v hv => hscalar v (List.mem_cons_of_mem _ hv)) hrun
      rwa [List.append_assoc, List.singleton_append] at hlast
    · cases hrun

end Reader

/-- Tokens are taken as a document exactly when they spell a value within the limit. -/
theorem ofTokens_eq_ok_iff (hscalar : ∀ w, .scalar w ∈ ts → w.IsScalar) :
    ofTokens limit ts = .ok v ↔ Spells limit ts v := by
  constructor
  · intro h
    unfold ofTokens at h
    split at h
    · rename_i w hrun
      obtain rfl := Except.ok.inj h
      have hconsumed := Reader.consumed_run (.value .nil) hscalar hrun
      rw [List.nil_append] at hconsumed
      cases hconsumed with
      | complete hopened hn hv =>
        cases hopened with
        | nil =>
          obtain rfl : _ = limit := (Nat.zero_add _).symm.trans hn
          exact hv
    · cases h
    · cases h
  · intro h
    have hrun : Reader.run limit (.value []) (ts ++ []) = _ := Reader.run_spells h (by simp)
    rw [List.append_nil] at hrun
    unfold ofTokens
    rw [hrun]
    rfl

end

namespace Token

theorem isScalar_of_int? {negative : Bool} {n : Nat} {v : Json} (h : int? negative n = some v) :
    v.IsScalar := by
  unfold int? at h
  split at h
  · split at h
    · obtain rfl := Option.some.inj h
      trivial
    · cases h
  · split at h
    · obtain rfl := Option.some.inj h
      trivial
    · cases h

theorem isScalar_of_ofLiteral {negative : Bool} {l : Literal} {v : Json}
    (h : ofLiteral negative l = .ok v) : v.IsScalar := by
  unfold ofLiteral at h
  split at h
  · cases h
  · dsimp only at h
    split at h
    · rename_i w hint
      obtain rfl := Except.ok.inj h
      split at hint
      · exact isScalar_of_int? hint
      · cases hint
    · split at h
      · obtain rfl := Except.ok.inj h
        trivial
      · cases h

theorem isScalar_of_scanNumber {chars rest : List Char} {v : Json}
    (h : scanNumber chars = .ok (.scalar v, rest)) : v.IsScalar := by
  unfold scanNumber at h
  dsimp only at h
  split at h
  · rename_i w hliteral
    cases h
    exact isScalar_of_ofLiteral hliteral
  · cases h

theorem isScalar_of_scan {chars rest : List Char} {v : Json}
    (h : scan chars = .ok (.scalar v, rest)) : v.IsScalar := by
  unfold scan at h
  split at h
  case h_7 =>
    split at h
    · cases h
    · cases h
  case h_11 =>
    split at h
    · exact isScalar_of_scanNumber h
    · cases h
  all_goals
    cases h
    try trivial

theorem isScalar_of_all {chars : List Char} {ts : List Token} (h : all chars = .ok ts) :
    ∀ v, .scalar v ∈ ts → v.IsScalar := by
  fun_induction all chars generalizing ts with
  | case1 =>
    cases h
    simp
  | case2 c rest _ ih => exact ih h
  | case3 => cases h
  | case4 => cases h
  | case5 c rest _ t tail hscan _ ts htail ih =>
    cases h
    rintro v hv
    rcases List.mem_cons.mp hv with rfl | hv
    · exact isScalar_of_scan hscan
    · exact ih htail v hv

theorem all_cons_of_scan {c : Char} {chars rest : List Char} {t : Token}
    (hc : isBlank c = false) (h : scan (c :: chars) = .ok (t, rest)) :
    all (c :: chars) = (all rest).map (t :: ·) := by
  rw [all, if_neg (by simp [hc])]
  split
  · rename_i hscan
    rw [h] at hscan
    cases hscan
  · rename_i hscan
    rw [h] at hscan
    cases hscan
    cases all rest <;> rfl

/-- A character that stands for itself in a string. -/
def isPlain (c : Char) : Bool :=
  c != '"' && c != '\\' && !decide (c.toNat < 0x20)

theorem scanChar_of_isPlain {c : Char} (h : isPlain c = true) (rest : List Char) :
    scanChar (c :: rest) = .ok (c, rest) := by
  simp only [isPlain, Bool.and_eq_true, bne_iff_ne, Bool.not_eq_true', decide_eq_false_iff_not] at h
  obtain ⟨⟨-, hescape⟩, hcontrol⟩ := h
  unfold scanChar
  split
  · rename_i heq
    exact absurd (List.cons.inj heq).1 hescape
  · rename_i heq
    obtain ⟨rfl, rfl⟩ := List.cons.inj heq
    rw [if_neg hcontrol]
  · rename_i heq
    cases heq

theorem scanString_of_scanChar {chars rest cs tail : List Char} {c : Char}
    (hquote : ∀ rest, chars ≠ '"' :: rest) (hchar : scanChar chars = .ok (c, rest))
    (hrest : scanString rest = .ok (cs, tail)) : scanString chars = .ok (c :: cs, tail) := by
  rw [scanString]
  · split
    · rename_i herr
      rw [hchar] at herr
      cases herr
    · rename_i hok
      rw [hchar] at hok
      cases hok
      rw [hrest]
  · exact fun rest heq => hquote rest heq

theorem scanString_append {cs : List Char} (h : cs.all isPlain = true) (rest : List Char) :
    scanString (cs ++ '"' :: rest) = .ok (cs, rest) := by
  induction cs with
  | nil => simp [scanString]
  | cons c cs ih =>
    obtain ⟨hc, hcs⟩ := Bool.and_eq_true_iff.mp h
    have hquote : ∀ tail, c :: (cs ++ '"' :: rest) ≠ '"' :: tail := by
      rintro tail heq
      obtain ⟨rfl, -⟩ := List.cons.inj heq
      simp [isPlain] at hc
    exact scanString_of_scanChar hquote (scanChar_of_isPlain hc _) (ih hcs)

/-- Tokens in the text without blanks and escapes. Numbers are left out. -/
def chars? : Token → Option (List Char)
  | openArray => some ['[']
  | closeArray => some [']']
  | openObject => some ['\x7b']
  | closeObject => some ['\x7d']
  | colon => some [':']
  | comma => some [',']
  | string s => if s.toList.all isPlain then some ('"' :: (s.toList ++ ['"'])) else none
  | scalar .null => some ['n', 'u', 'l', 'l']
  | scalar (.bool true) => some ['t', 'r', 'u', 'e']
  | scalar (.bool false) => some ['f', 'a', 'l', 's', 'e']
  | scalar _ => none

theorem all_append_of_chars? {t : Token} {cs : List Char} (h : t.chars? = some cs)
    (rest : List Char) : all (cs ++ rest) = (all rest).map (t :: ·) := by
  unfold chars? at h
  split at h
  case h_7 s =>
    split at h
    · rename_i hplain
      obtain rfl := Option.some.inj h
      have hscan : scan ('"' :: (s.toList ++ '"' :: rest)) = .ok (string s, rest) := by
        simp only [scan, scanString_append hplain, String.ofList_toList]
      rw [List.cons_append, List.append_assoc, List.singleton_append]
      exact all_cons_of_scan rfl hscan
    · cases h
  case h_11 => cases h
  all_goals
    obtain rfl := Option.some.inj h
    exact all_cons_of_scan rfl rfl

/-- A text that is written token by token has these tokens. -/
theorem all_flatten_of_chars? {ts : List Token} {parts : List (List Char)}
    (h : ts.mapM chars? = some parts) : all parts.flatten = .ok ts := by
  induction ts generalizing parts with
  | nil =>
    rw [List.mapM_nil] at h
    obtain rfl := Option.some.inj h
    rw [List.flatten_nil, all]
  | cons t ts ih =>
    rw [List.mapM_cons] at h
    obtain ⟨cs, ht, h⟩ := Option.bind_eq_some_iff.mp h
    obtain ⟨rest, hts, h⟩ := Option.bind_eq_some_iff.mp h
    obtain rfl := Option.some.inj h
    rw [List.flatten_cons, all_append_of_chars? ht, ih hts]
    rfl

end Token

section

variable {limit : Nat} {text : String}

/-- A text is read as a value exactly when its tokens spell the value. -/
theorem read_eq_ok_iff {v : Json} :
    read limit text = .ok v ↔ ∃ ts, Token.all text.toList = .ok ts ∧ Spells limit ts v := by
  unfold read
  cases hall : Token.all text.toList with
  | error fault => simp
  | ok ts => simp [ofTokens_eq_ok_iff (Token.isScalar_of_all hall)]

/-- The text is an object with these members in this order, repeated names included. -/
def SpellsObject (limit : Nat) (text : String) (members : List (String × Json)) : Prop :=
  ∃ (n : Nat) (parts : List (String × Spelling)), n + 1 = limit ∧
    members = parts.map (fun m => (m.1, m.2.value)) ∧
      (∀ m ∈ parts, Spells n m.2.tokens m.2.value) ∧
        Token.all text.toList = .ok (.openObject ::
          ([Token.comma].intercalate (parts.map memberTokens) ++ [.closeObject]))

/-- A text is read as an object exactly when it is one, and then with each name once. -/
theorem read_eq_object_iff {entries : List (String × Json)} :
    read limit text = .ok (.object entries) ↔
      ∃ members, SpellsObject limit text members ∧ entries = Entries.ofList members := by
  rw [read_eq_ok_iff]
  constructor
  · rintro ⟨ts, hall, hspells⟩
    cases hspells with
    | scalar h => exact h.elim
    | @object n parts h => exact ⟨_, ⟨n, parts, rfl, rfl, h, hall⟩, rfl⟩
  · rintro ⟨_, ⟨n, parts, rfl, rfl, h, hall⟩, rfl⟩
    exact ⟨_, hall, .object h⟩

theorem Spells.nodup_names {n : Nat} {ts : List Token} {members : List (String × Json)}
    (h : Spells n ts (.object members)) : (Entries.names members).Nodup := by
  cases h with
  | scalar h => exact h.elim
  | object h => exact Entries.nodup_names_ofList _

/-- An object inside an object that has been read has distinct names. -/
theorem SpellsObject.nodup_names {members inner : List (String × Json)} {name : String}
    (h : SpellsObject limit text members) (hmem : (name, .object inner) ∈ members) :
    (Entries.names inner).Nodup := by
  obtain ⟨n, parts, _, rfl, hparts, _⟩ := h
  obtain ⟨part, hpart, heq⟩ := List.mem_map.mp hmem
  obtain ⟨_, hvalue⟩ := Prod.mk.inj heq
  have hspells := hparts part hpart
  rw [hvalue] at hspells
  exact hspells.nodup_names

end

end Grounding.Json
