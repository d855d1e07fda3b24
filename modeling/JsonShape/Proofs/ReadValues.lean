import JsonShape.Json.Reader
import JsonShape.Proofs.InferredForm
import JsonShape.Unicode.Basic

/-!
# Values of texts

* **Names** (`Json.uniqueNames_of_read`) — a value that was read repeats no name.
* **Blanks** (`Json.not_isBlank_of_read`) — a text from which a value was read is not blank.
-/

namespace JsonShape

open Members

theorem map_eq_ok {ε α β : Type} {x : Except ε α} {f : α → β} {b : β} (h : x.map f = .ok b) :
    ∃ a, x = .ok a ∧ f a = b := by
  cases x with
  | error _ => cases h
  | ok a =>
    cases h
    exact ⟨a, rfl, rfl⟩

namespace Reader

open Lexeme

/-- A character at which a value can begin. -/
def StartsValue (c : Char) : Prop :=
  c = 'n' ∨ c = 't' ∨ c = 'f' ∨ c = '-' ∨ c.isDigit = true ∨ c = '"' ∨ c = '[' ∨ c = '\x7b'

/-- What a value was read from. -/
inductive ReadFrom (rest : List Char) : Json → Prop
  | leaf {v : Json} : v.UniqueNames → ReadFrom rest v
  | array {depth vs after} : elements depth true rest = .ok (vs, after) → ReadFrom rest (.array vs)
  | object {depth ms after} : members depth true rest = .ok (ms, after) →
      ReadFrom rest (.object (Members.ofEntries ms))

theorem value_ok {depth : Nat} {text : List Char} {v : Json} {after : Shorter text}
    (h : value depth text = .ok (v, after)) :
    ∃ c rest, next? text = some (c, rest) ∧ StartsValue c ∧ ReadFrom rest.1 v := by
  rw [value] at h
  split at h
  · cases h
  · next c rest hlt hnext =>
    obtain ⟨⟨found, r⟩, hread, heq⟩ := map_eq_ok h
    obtain ⟨rfl, -⟩ := Prod.mk.inj heq
    -- what is no array and no object holds no names
    have hleaf : ∀ {α : Type} {x : Except Fault α} {f : α → Json × NotLonger rest},
        (∀ a, (f a).1.UniqueNames) → x.map f = .ok (found, r) → found.UniqueNames := by
      intro α x f hf hx
      obtain ⟨a, _, ha⟩ := map_eq_ok hx
      have := hf a
      rw [ha] at this
      exact this
    refine ⟨c, ⟨rest, hlt⟩, hnext, ?_⟩
    split_ifs at hread with hn ht hf hminus hdigit hquote hbracket hbrace
    · exact ⟨.inl hn, .leaf (hleaf (fun _ => .null) hread)⟩
    · exact ⟨.inr (.inl ht), .leaf (hleaf (fun _ => .bool) hread)⟩
    · exact ⟨.inr (.inr (.inl hf)), .leaf (hleaf (fun _ => .bool) hread)⟩
    · exact ⟨.inr (.inr (.inr (.inl hminus))), .leaf (hleaf (fun _ => .number) hread)⟩
    · exact ⟨.inr (.inr (.inr (.inr (.inl hdigit)))), .leaf (hleaf (fun _ => .number) hread)⟩
    · exact ⟨.inr (.inr (.inr (.inr (.inr (.inl hquote))))), .leaf (hleaf (fun _ => .string) hread)⟩
    · cases depth with
      | zero => cases hread
      | succ depth =>
        obtain ⟨⟨vs, after⟩, helements, heq⟩ := map_eq_ok hread
        obtain ⟨rfl, -⟩ := Prod.mk.inj heq
        exact ⟨.inr (.inr (.inr (.inr (.inr (.inr (.inl hbracket)))))), .array helements⟩
    · cases depth with
      | zero => cases hread
      | succ depth =>
        obtain ⟨⟨ms, after⟩, hmembers, heq⟩ := map_eq_ok hread
        obtain ⟨rfl, -⟩ := Prod.mk.inj heq
        exact ⟨.inr (.inr (.inr (.inr (.inr (.inr (.inr hbrace)))))), .object hmembers⟩

theorem elements_ok {depth : Nat} {first : Bool} {text : List Char} {vs : List Json}
    {after : Shorter text} (h : elements depth first text = .ok (vs, after)) :
    vs = [] ∨ ∃ start v tail rest others, start.length ≤ text.length ∧
      value depth start = .ok (v, tail) ∧ elements depth false tail.1 = .ok (others, rest) ∧
      vs = v :: others := by
  rw [elements] at h
  split at h
  · cases h
  · cases h
    exact .inl rfl
  · next start hstart _ =>
    split at h
    · cases h
    · next v tail htail hvalue =>
      obtain ⟨⟨others, rest⟩, hothers, heq⟩ := map_eq_ok h
      obtain ⟨rfl, -⟩ := Prod.mk.inj heq
      exact .inr ⟨start, v, ⟨tail, htail⟩, rest, others, hstart, hvalue, hothers, rfl⟩

theorem members_ok {depth : Nat} {first : Bool} {text : List Char} {ms : Members Json}
    {after : Shorter text} (h : members depth first text = .ok (ms, after)) :
    ms = [] ∨ ∃ start name v tail rest others, start.length < text.length ∧
      value depth start = .ok (v, tail) ∧ members depth false tail.1 = .ok (others, rest) ∧
      ms = (name, v) :: others := by
  rw [members] at h
  split at h
  · cases h
  · cases h
    exact .inl rfl
  · next name colon hcolon _ =>
    split at h
    · cases h
    · next start hstart _ =>
      split at h
      · cases h
      · next v tail htail hvalue =>
        obtain ⟨⟨others, rest⟩, hothers, heq⟩ := map_eq_ok h
        obtain ⟨rfl, -⟩ := Prod.mk.inj heq
        exact .inr ⟨start, name, v, ⟨tail, htail⟩, rest, others, Nat.lt_trans hstart hcolon, hvalue,
          hothers, rfl⟩

/-- The values that are read from texts of some length repeat no name. -/
def ReadUnique (length : Nat) : Prop :=
  ∀ depth start v after, start.length ≤ length → value depth start = .ok (v, after) → v.UniqueNames

theorem elements_uniqueNames {length : Nat} (hvalue : ReadUnique length) {text : List Char}
    (hlength : text.length ≤ length) {depth : Nat} {first : Bool} {vs : List Json}
    {after : Shorter text} (h : elements depth first text = .ok (vs, after)) :
    ∀ v ∈ vs, v.UniqueNames := by
  induction hn : text.length using Nat.strongRecOn generalizing text first vs with
  | ind n ih =>
    subst hn
    rcases elements_ok h with rfl | ⟨start, v, tail, rest, others, hstart, hv, hothers, rfl⟩
    · exact List.forall_mem_nil _
    · have htail : tail.1.length < text.length := Nat.lt_of_lt_of_le tail.2 hstart
      rw [List.forall_mem_cons]
      constructor
      · exact hvalue depth start v tail (Nat.le_trans hstart hlength) hv
      · exact ih tail.1.length htail (Nat.le_trans (Nat.le_of_lt htail) hlength) hothers rfl

theorem members_uniqueNames {length : Nat} (hvalue : ReadUnique length) {text : List Char}
    (hlength : text.length ≤ length) {depth : Nat} {first : Bool} {ms : Members Json}
    {after : Shorter text} (h : members depth first text = .ok (ms, after)) :
    ∀ member ∈ ms, member.2.UniqueNames := by
  induction hn : text.length using Nat.strongRecOn generalizing text first ms with
  | ind n ih =>
    subst hn
    rcases members_ok h with rfl | ⟨start, name, v, tail, rest, others, hstart, hv, hothers, rfl⟩
    · exact List.forall_mem_nil _
    · have htail : tail.1.length < text.length := Nat.lt_trans tail.2 hstart
      rw [List.forall_mem_cons]
      constructor
      · exact hvalue depth start v tail (Nat.le_trans (Nat.le_of_lt hstart) hlength) hv
      · exact ih tail.1.length htail (Nat.le_trans (Nat.le_of_lt htail) hlength) hothers rfl

theorem readUnique (length : Nat) : ReadUnique length := by
  induction length using Nat.strongRecOn with
  | ind length ih =>
    intro depth start v after hstart h
    obtain ⟨c, rest, _, _, hfrom⟩ := value_ok h
    -- the elements and members of a value stand in a text that is shorter than that of the value
    have hrest := ih rest.1.length (Nat.lt_of_lt_of_le rest.2 hstart)
    cases hfrom with
    | leaf unique => exact unique
    | array helements => exact .array (elements_uniqueNames hrest (Nat.le_refl _) helements)
    | object hmembers =>
      refine .object (nodup_ofEntries _) fun member hmem => ?_
      rcases mem_insertAll hmem with hnil | hentry
      · cases hnil
      · exact members_uniqueNames hrest (Nat.le_refl _) hmembers member hentry

theorem mem_of_next? {text : List Char} {c : Char} {rest : Shorter text}
    (h : next? text = some (c, rest)) : c ∈ text := by
  induction text with
  | nil => cases h
  | cons d tail ih =>
    rw [next?] at h
    split at h
    · obtain ⟨⟨found, r⟩, hfound, heq⟩ := Option.map_eq_some_iff.mp h
      obtain ⟨rfl, -⟩ := Prod.mk.inj heq
      exact List.mem_cons_of_mem _ (ih hfound)
    · cases h
      exact List.mem_cons_self

theorem StartsValue.not_isWhiteSpace {c : Char} (h : StartsValue c) :
    Unicode.isWhiteSpace c = false := by
  rcases h with rfl | rfl | rfl | rfl | h | rfl | rfl | rfl
  case inr.inr.inr.inr.inl =>
    -- every range of white space ends before the digits or begins after them
    obtain ⟨hlow, hhigh⟩ := Char.isDigit_iff_toNat.mp h
    have hlow : 48 ≤ c.toNat := hlow
    have hhigh : c.toNat ≤ 57 := hhigh
    rw [Unicode.isWhiteSpace, Unicode.Table.contains, List.any_eq_false]
    rintro ⟨first, last, stride⟩ hmem
    have hrange : last < 48 ∨ 57 < first :=
      (by decide : ∀ range ∈ Unicode.whiteSpace, range.2.1 < 48 ∨ 57 < range.1) _ hmem
    simp only [Bool.and_eq_true, decide_eq_true_eq]
    omega
  all_goals decide

theorem readChars_ok {text : List Char} {v : Json} (h : readChars text = .ok v) :
    ∃ after, value depthLimit text = .ok (v, after) := by
  rw [readChars] at h
  split at h
  · cases h
  · next found rest hrest hvalue =>
    cases htrailing : trailing? rest with
    | none =>
      rw [htrailing] at h
      cases h
      exact ⟨⟨rest, hrest⟩, hvalue⟩
    | some fault =>
      rw [htrailing] at h
      cases h

end Reader

theorem Json.read_ok {text : String} {v : Json} (h : Json.read text = .ok v) :
    ∃ after, Reader.value Reader.depthLimit text.toList = .ok (v, after) := by
  unfold Json.read at h
  cases hread : Reader.readChars text.toList with
  | error fault =>
    rw [hread] at h
    cases h
  | ok found =>
    rw [hread] at h
    cases h
    exact Reader.readChars_ok hread

theorem Json.uniqueNames_of_read {text : String} {v : Json} (h : Json.read text = .ok v) :
    v.UniqueNames := by
  obtain ⟨after, hvalue⟩ := Json.read_ok h
  exact Reader.readUnique _ _ _ _ _ (Nat.le_refl _) hvalue

theorem Json.not_isBlank_of_read {text : String} {v : Json} (h : Json.read text = .ok v) :
    Unicode.isBlank text = false := by
  obtain ⟨after, hvalue⟩ := Json.read_ok h
  obtain ⟨c, rest, hnext, hstarts, _⟩ := Reader.value_ok hvalue
  rw [Unicode.isBlank, List.all_eq_false]
  exact ⟨c, Reader.mem_of_next? hnext, by rw [hstarts.not_isWhiteSpace]; exact Bool.false_ne_true⟩

/-! ### Putting a reading together -/

namespace Reader

open Lexeme

theorem value_true (depth : Nat) (rest : List Char) :
    value depth ('t' :: 'r' :: 'u' :: 'e' :: rest)
      = .ok (.bool true, (((Shorter.tail 'e' rest).cons 'u').cons 'r').cons 't') := by
  rw [value]
  rfl

theorem value_false (depth : Nat) (rest : List Char) :
    value depth ('f' :: 'a' :: 'l' :: 's' :: 'e' :: rest)
      = .ok (.bool false, ((((Shorter.tail 'e' rest).cons 's').cons 'l').cons 'a').cons 'f') := by
  rw [value]
  rfl

theorem elements_closed (depth : Nat) (first : Bool) (rest : List Char) :
    elements depth first (']' :: rest) = .ok ([], .tail ']' rest) := by
  rw [elements]
  rfl

theorem elements_cons {depth : Nat} {first : Bool} {text : List Char} {start : NotLonger text}
    {v : Json} {tail : Shorter start.1} {others : List Json} {rest : Shorter tail.1}
    (hnext : nextElement first text = .ok (.item start))
    (hvalue : value depth start.1 = .ok (v, tail))
    (hothers : elements depth false tail.1 = .ok (others, rest)) :
    elements depth first text = .ok (v :: others, start.transShorter (tail.trans rest)) := by
  rw [elements, hnext]
  dsimp only
  rw [hvalue]
  dsimp only
  rw [hothers]
  rfl

theorem value_array {depth : Nat} {text : List Char} {vs : List Json} {rest : Shorter text}
    (h : elements depth true text = .ok (vs, rest)) :
    value (depth + 1) ('[' :: text) = .ok (.array vs, rest.cons '[') := by
  rw [value]
  show Except.map _ (Except.map _ (elements depth true text)) = _
  rw [h]
  rfl

end Reader

theorem Json.read_array {text : String} {rest : List Char} {vs : List Json} {after : Shorter rest}
    (htext : text.toList = '[' :: rest) (h : Reader.elements 126 true rest = .ok (vs, after))
    (hend : after.1 = []) : Json.read text = .ok (.array vs) := by
  have hvalue : Reader.value Reader.depthLimit ('[' :: rest) = .ok (.array vs, after.cons '[') :=
    Reader.value_array h
  have hblank : Reader.trailing? after.1 = none := by
    rw [hend]
    rfl
  rw [Json.read, htext, Reader.readChars, hvalue]
  show Except.mapError _ ((Reader.trailing? after.1).elim _ _) = _
  rw [hblank]
  rfl

end JsonShape
