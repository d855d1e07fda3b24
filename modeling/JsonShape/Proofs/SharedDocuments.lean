import JsonShape.Consistency.Cache
import Mathlib.Data.List.Chain
import Mathlib.Logic.Function.Basic

/-!
# The cache among the owners of documents

A document lies in memory under its identity. Any number of owners hold it, and a cache holds the
document of its last call. Once nobody holds a document, its identity can be given to another one,
with other content; until then its content does not change. The cache compares identities alone, and
what makes this safe is that it is an owner itself.

Main statement: by `Memory.answers_transparent` a cache answers every call with the tree of the
document's content, and with the stored tree of an earlier call exactly if no other document was
asked for in between.
-/

namespace JsonShape

/-! ### One call -/

namespace TreeCache

/-- The cache holds the document of its last call. -/
def holds (cache : TreeCache) (identity : Nat) : Bool := cache.last.any (·.1 == identity)

theorem holds_of_last {cache : TreeCache} {entry : Nat × StoredTree} (h : cache.last = some entry) :
    cache.holds entry.1 = true := by
  rw [holds, h, Option.any_some, beq_self_eq_true]

/-- A call returns what is stored, or builds the tree and stores it. -/
theorem treeFor_cases (cache : TreeCache) (identity : Nat) (schema : Schema) :
    (∃ stored, cache.last = some (identity, stored)
        ∧ cache.treeFor identity schema = (stored, cache))
      ∨ (∀ stored, cache.last ≠ some (identity, stored))
        ∧ cache.treeFor identity schema
          = (⟨cache.built, schema.issueTree cache.messages⟩,
              { cache with
                built := cache.built + 1
                last := some (identity, ⟨cache.built, schema.issueTree cache.messages⟩) }) := by
  unfold treeFor
  cases hlast : cache.last with
  | none => exact .inr ⟨nofun, rfl⟩
  | some entry =>
    obtain ⟨known, stored⟩ := entry
    by_cases h : known = identity
    · subst h
      exact .inl ⟨stored, rfl, if_pos rfl⟩
    · refine .inr ⟨fun other hother => h ?_, if_neg h⟩
      rw [Option.some.injEq, Prod.mk.injEq] at hother
      exact hother.1

end TreeCache

/-! ### Documents with owners -/

/-- The documents in memory and a cache of trees. -/
structure Memory where
  /-- What was last put under an identity. -/
  content : Nat → Schema
  /-- How many owners besides the cache hold the document of an identity. -/
  handles : Nat → Nat
  cache : TreeCache

/-- What an owner of documents can do. -/
inductive Action
  /-- A document is put under an identity that is free. -/
  | allocate (identity : Nat) (content : Schema)
  /-- The document gets one more owner. -/
  | share (identity : Nat)
  /-- The document loses an owner. -/
  | release (identity : Nat)
  /-- The cache is asked for the tree of the document. -/
  | ask (identity : Nat)

/-- A call of the cache: what it was asked for and what it returned. -/
structure Answer where
  identity : Nat
  stored : StoredTree

namespace Answer

/-- The entry of the cache after an answer. -/
def entry (answer : Answer) : Nat × StoredTree := (answer.identity, answer.stored)

/-- The tree that was returned for an identity. -/
def tree (answer : Answer) : Nat × IssueTree := (answer.identity, answer.stored.tree)

end Answer

/-- The answers without a cache: every tree is built anew, from what the identity was last given. -/
def Action.builtAnew (messages : Messages) (content : Nat → Schema) :
    List Action → List (Nat × IssueTree)
  | [] => []
  | allocate identity schema :: rest =>
    builtAnew messages (Function.update content identity schema) rest
  | share _ :: rest => builtAnew messages content rest
  | release _ :: rest => builtAnew messages content rest
  | ask identity :: rest =>
    (identity, (content identity).issueTree messages) :: builtAnew messages content rest

namespace Memory

/-- How many hold the document of an identity, the cache included. -/
def holders (memory : Memory) (identity : Nat) : Nat :=
  memory.handles identity + if memory.cache.holds identity then 1 else 0

/-- What an action does and what the cache returns, if the action is possible. -/
def step? (memory : Memory) : Action → Option (Memory × List Answer)
  | .allocate identity content =>
    if memory.holders identity = 0 then
      some
        ({ memory with
            content := Function.update memory.content identity content
            handles := Function.update memory.handles identity 1 }, [])
    else none
  | .share identity =>
    if 0 < memory.handles identity then
      some
        ({ memory with
            handles := Function.update memory.handles identity (memory.handles identity + 1) }, [])
    else none
  | .release identity =>
    if 0 < memory.handles identity then
      some
        ({ memory with
            handles := Function.update memory.handles identity (memory.handles identity - 1) }, [])
    else none
  | .ask identity =>
    if 0 < memory.handles identity then
      let (stored, cache) := memory.cache.treeFor identity (memory.content identity)
      some ({ memory with cache }, [⟨identity, stored⟩])
    else none

/-- What a sequence of actions does, with everything that the cache returns. -/
def run? (memory : Memory) : List Action → Option (Memory × List Answer)
  | [] => some (memory, [])
  | action :: rest => do
    let (next, answers) ← memory.step? action
    let (last, later) ← next.run? rest
    return (last, answers ++ later)

/-- A memory without documents, and a new cache. -/
def start (messages : Messages) : Memory := ⟨fun _ => .empty, fun _ => 0, { messages }⟩

variable {memory next : Memory} {action : Action} {actions : List Action} {answers : List Answer}
  {messages : Messages}

/-! ### One action -/

/-- An action fills an identity that nobody holds, leaves all documents and the cache alone, or is a
call. -/
theorem step?_cases (h : memory.step? action = some (next, answers)) :
    (∃ identity content, action = .allocate identity content ∧ memory.holders identity = 0
        ∧ answers = [] ∧ next.cache = memory.cache
        ∧ next.content = Function.update memory.content identity content)
      ∨ (∃ identity, (action = .share identity ∨ action = .release identity)
        ∧ answers = [] ∧ next.cache = memory.cache ∧ next.content = memory.content)
      ∨ ∃ identity stored cache, action = .ask identity
        ∧ memory.cache.treeFor identity (memory.content identity) = (stored, cache)
        ∧ next = { memory with cache } ∧ answers = [⟨identity, stored⟩] := by
  -- every action is guarded, and what it does where the guard holds is read off its definition
  cases action with
  | allocate identity content =>
    obtain ⟨hfree, hstep⟩ := Option.ite_none_right_eq_some.mp h
    cases hstep
    exact .inl ⟨identity, content, rfl, hfree, rfl, rfl, rfl⟩
  | share identity =>
    cases (Option.ite_none_right_eq_some.mp h).2
    exact .inr (.inl ⟨identity, .inl rfl, rfl, rfl, rfl⟩)
  | release identity =>
    cases (Option.ite_none_right_eq_some.mp h).2
    exact .inr (.inl ⟨identity, .inr rfl, rfl, rfl, rfl⟩)
  | ask identity =>
    cases (Option.ite_none_right_eq_some.mp h).2
    exact .inr (.inr ⟨identity, _, _, rfl, rfl, rfl, rfl⟩)

/-- A later entry of the cache is the earlier one if it is for the same document, and newer if it is
for another. -/
def Follows (earlier later : Nat × StoredTree) : Prop :=
  if earlier.1 = later.1 then earlier.2 = later.2 else earlier.2.serial < later.2.serial

/-- The stored tree is that of the document which the cache holds, and was built before the next
one. -/
structure Sound (messages : Messages) (memory : Memory) : Prop where
  messages_eq : memory.cache.messages = messages
  tree_eq : ∀ {entry}, memory.cache.last = some entry →
    entry.2.tree = (memory.content entry.1).issueTree messages
  serial_lt : ∀ {entry}, memory.cache.last = some entry → entry.2.serial < memory.cache.built

theorem sound_start (messages : Messages) : (start messages).Sound messages :=
  ⟨rfl, nofun, nofun⟩

/-- A call returns the tree of the document and has it stored afterwards. -/
theorem Sound.treeFor {identity : Nat} {stored : StoredTree} {cache : TreeCache}
    (sound : memory.Sound messages)
    (h : memory.cache.treeFor identity (memory.content identity) = (stored, cache)) :
    Sound messages { memory with cache } ∧ cache.last = some (identity, stored)
      ∧ stored.tree = (memory.content identity).issueTree messages
      ∧ ∀ entry, memory.cache.last = some entry → Follows entry (identity, stored) := by
  obtain ⟨messages_eq, tree_eq, serial_lt⟩ := sound
  obtain ⟨found, hlast, heq⟩ | ⟨hother, heq⟩ :=
    memory.cache.treeFor_cases identity (memory.content identity)
  · cases heq.symm.trans h
    refine ⟨⟨messages_eq, tree_eq, serial_lt⟩, hlast, tree_eq hlast, fun entry hentry => ?_⟩
    cases hlast.symm.trans hentry
    exact (if_pos rfl).mpr rfl
  · cases heq.symm.trans h
    refine ⟨⟨messages_eq, ?_, ?_⟩, rfl, by rw [messages_eq], fun entry hentry => ?_⟩
    · rintro entry ⟨⟩
      rw [messages_eq]
    · rintro entry ⟨⟩
      exact Nat.lt_succ_self _
    · have hne : entry.1 ≠ identity := by
        rintro rfl
        exact hother entry.2 hentry
      exact (if_neg hne).mpr (serial_lt hentry)

/-- Nothing changes for a cache as long as its document stays what it is. -/
theorem Sound.of_cache_eq (sound : memory.Sound messages) (hcache : next.cache = memory.cache)
    (hcontent : ∀ identity, memory.cache.holds identity = true →
      next.content identity = memory.content identity) : next.Sound messages := by
  refine ⟨hcache ▸ sound.messages_eq, fun {entry} h => ?_, fun {entry} h => ?_⟩
  · rw [hcache] at h
    rw [hcontent _ (TreeCache.holds_of_last h), sound.tree_eq h]
  · rw [hcache] at h ⊢
    exact sound.serial_lt h

/-- The cache is a holder, so the identity of its document is not given away. -/
theorem ne_of_holds {identity other : Nat} (hfree : memory.holders identity = 0)
    (hother : memory.cache.holds other = true) : other ≠ identity := by
  rintro rfl
  rw [holders, if_pos hother] at hfree
  omega

/-! ### Runs -/

theorem run?_cons {rest : List Action} {last : Memory}
    (h : memory.run? (action :: rest) = some (last, answers)) :
    ∃ next now later, memory.step? action = some (next, now)
      ∧ next.run? rest = some (last, later) ∧ answers = now ++ later := by
  obtain ⟨⟨next, now⟩, hstep, h⟩ := Option.bind_eq_some_iff.mp h
  obtain ⟨⟨last', later⟩, hrun, h⟩ := Option.bind_eq_some_iff.mp h
  cases h
  exact ⟨next, now, later, hstep, hrun, rfl⟩

/-- The answers are those without a cache, and the entries of the cache follow each other. -/
theorem Sound.run? (sound : memory.Sound messages) {last : Memory}
    (h : memory.run? actions = some (last, answers)) :
    answers.map Answer.tree = Action.builtAnew messages memory.content actions
      ∧ List.IsChain Follows (memory.cache.last.toList ++ answers.map Answer.entry) := by
  induction actions generalizing memory answers with
  | nil =>
    cases h
    refine ⟨rfl, ?_⟩
    cases last.cache.last with
    | none => exact .nil
    | some entry => exact .singleton entry
  | cons action rest ih =>
    obtain ⟨next, now, later, hstep, hrun, rfl⟩ := run?_cons h
    obtain ⟨identity, content, rfl, hfree, rfl, hcache, hcontent⟩
      | ⟨identity, haction, rfl, hcache, hcontent⟩
      | ⟨identity, stored, cache, rfl, htree, rfl, rfl⟩ := step?_cases hstep
    · -- other content is put only where the cache does not hold
      have hsound : next.Sound messages := by
        refine sound.of_cache_eq hcache fun other hother => ?_
        rw [hcontent, Function.update_of_ne (ne_of_holds hfree hother)]
      have ⟨htrees, hchain⟩ := ih hsound hrun
      rw [hcontent] at htrees
      rw [hcache] at hchain
      exact ⟨htrees, hchain⟩
    · have hsound : next.Sound messages :=
        sound.of_cache_eq hcache fun other _ => congrFun hcontent other
      have ⟨htrees, hchain⟩ := ih hsound hrun
      rw [hcontent] at htrees
      rw [hcache] at hchain
      rcases haction with rfl | rfl <;> exact ⟨htrees, hchain⟩
    · -- the answer is the entry that the next one has to follow
      have ⟨hsound, hlast, htree, hfollows⟩ := sound.treeFor htree
      have ⟨htrees, hchain⟩ := ih hsound hrun
      rw [show Memory.cache { memory with cache } = cache from rfl, hlast] at hchain
      refine ⟨congrArg₂ List.cons (congrArg (Prod.mk identity) htree) htrees, ?_⟩
      cases hmemory : memory.cache.last with
      | none => exact hchain
      | some entry => exact .cons_cons (hfollows entry hmemory) hchain

/-- Between two entries there is none for another document and they are the same, or there is one
and the second entry is newer. -/
theorem follows_of_isChain {a b : Nat × StoredTree} {between : List (Nat × StoredTree)}
    (h : List.IsChain Follows (a :: (between ++ [b]))) :
    (∀ c ∈ between ++ [b], c.1 = a.1) ∧ a.2 = b.2
      ∨ (∃ c ∈ between ++ [b], c.1 ≠ a.1) ∧ a.2.serial < b.2.serial := by
  induction between generalizing a with
  | nil =>
    have hfollows : Follows a b := (List.isChain_cons_cons.mp h).1
    by_cases heq : a.1 = b.1
    · exact .inl ⟨by simpa using heq.symm, (if_pos heq).mp hfollows⟩
    · exact .inr ⟨⟨b, by simp, Ne.symm heq⟩, (if_neg heq).mp hfollows⟩
  | cons c rest ih =>
    obtain ⟨hfollows, hrest⟩ := List.isChain_cons_cons.mp h
    -- serials never fall along the chain, so one other document makes the last entry newer for good
    by_cases heq : a.1 = c.1
    · have hstored : a.2 = c.2 := (if_pos heq).mp hfollows
      rw [heq, hstored, List.cons_append, List.forall_mem_cons, List.exists_mem_cons_iff]
      exact (ih hrest).imp (fun ⟨hall, hb⟩ => ⟨⟨rfl, hall⟩, hb⟩)
        fun ⟨hother, hb⟩ => ⟨.inr hother, hb⟩
    · have hlt : a.2.serial < c.2.serial := (if_neg heq).mp hfollows
      have hle : c.2.serial ≤ b.2.serial :=
        (ih hrest).elim (fun h => h.2 ▸ le_rfl) fun h => h.2.le
      exact .inr ⟨⟨c, List.mem_cons_self, Ne.symm heq⟩, hlt.trans_le hle⟩

/-- The cache cannot be told from building every tree anew. Whatever is done with the documents,
every call is answered with the tree of what was last put under its identity, in the wording of the
cache's messages. And of two calls the second returns the stored tree of the first exactly if all
calls after the first, up to the second, were for the document of the first. -/
theorem answers_transparent {last : Memory}
    (h : (start messages).run? actions = some (last, answers)) :
    answers.map Answer.tree = Action.builtAnew messages (start messages).content actions
      ∧ ∀ before a between b after, answers = before ++ a :: (between ++ b :: after) →
          (a.stored.serial = b.stored.serial ↔ ∀ c ∈ between ++ [b], c.identity = a.identity)
            ∧ ((∀ c ∈ between ++ [b], c.identity = a.identity) → a.stored = b.stored) := by
  obtain ⟨htrees, hchain⟩ := (sound_start messages).run? h
  refine ⟨htrees, ?_⟩
  rintro before a between b after rfl
  -- only the entries from the first answer to the second matter
  have hpart : List.IsChain Follows (a.entry :: (between.map Answer.entry ++ [b.entry])) := by
    refine hchain.infix ⟨before.map Answer.entry, after.map Answer.entry, ?_⟩
    simp [start]
  have hforall : (∀ c ∈ between.map Answer.entry ++ [b.entry], c.1 = a.identity)
      ↔ ∀ c ∈ between ++ [b], c.identity = a.identity := by
    simp [Answer.entry, or_imp, forall_and]
  obtain ⟨hsame, hstored⟩ | ⟨⟨c, hc, hother⟩, hlt⟩ := follows_of_isChain hpart
  · have hall := hforall.mp hsame
    exact ⟨⟨fun _ => hall, fun _ => congrArg StoredTree.serial hstored⟩, fun _ => hstored⟩
  · have hnot : ¬∀ c ∈ between ++ [b], c.identity = a.identity :=
      fun hall => hother (hforall.mpr hall c hc)
    exact ⟨⟨fun heq => absurd heq (Nat.ne_of_lt hlt), fun hall => absurd hall hnot⟩,
      fun hall => absurd hall hnot⟩

/-- A document is asked for twice and given up; once the cache has moved on to a second one, a third
one is put under the identity of the first. -/
def identityReused : List Action :=
  [.allocate 0 .empty, .ask 0, .share 0, .ask 0, .release 0, .release 0,
    .allocate 1 (.typed .string), .ask 1, .release 1, .allocate 0 (.boolean false), .ask 0]

/-- The third document does not get the tree of the first, whose identity it has. -/
theorem answers_transparent_identityReused :
    ∃ last answers, (start {}).run? identityReused = some (last, answers)
      ∧ answers.map (fun answer => answer.stored.serial) = [0, 0, 1, 2]
      ∧ answers.map Answer.tree
        = [(0, Schema.empty.issueTree {}), (0, Schema.empty.issueTree {}),
            (1, (Schema.typed .string).issueTree {}),
            (0, (Schema.boolean false).issueTree {})] := by
  obtain ⟨⟨last, answers⟩, h⟩ := Option.isSome_iff_exists.mp
    (show ((start {}).run? identityReused).isSome = true by rfl)
  have hserials : ((start {}).run? identityReused).map
      (fun result => result.2.map fun answer => answer.stored.serial) = some [0, 0, 1, 2] := by rfl
  rw [h, Option.map_some, Option.some.injEq] at hserials
  exact ⟨last, answers, h, hserials, (answers_transparent h).1⟩

/-- The identity of a document is not free while the cache holds it. -/
example :
    ((start {}).run? [.allocate 0 .empty, .ask 0, .release 0, .allocate 0 .empty]).isNone = true :=
  rfl

end Memory

end JsonShape
