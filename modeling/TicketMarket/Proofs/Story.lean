import Mathlib
import TicketMarket.Value.Ident

/-! # Records told by a log of entries

A table of records (events, tickets, listings) that someone outside rebuilds from a log
of entries, each about at most one record, keyed by a number. `RecordKind` says how to
read an entry: which record it is about, whether it is the record's birth, which event it
names and which status it leaves the record in. The entries about one record, in order,
are its story (`RecordKind.story`).

A record is told by the log (`RecordKind.Told`) when its story opens with its birth, has
no second birth, names the record's event throughout, and ends on the record's status. A
table is mirrored by the log (`RecordKind.Mirrors`) when its keys ascend below the next
key to be issued, every record is told, and every entry is about a record of the table.

The lemmas below say how a table and its log may grow together and stay mirrored: the
log may grow by entries about no record (`Mirrors.quiet`), a record may change in place
with the entries about it that tell the change (`Mirrors.change`, `Mirrors.update`) or
without any (`Mirrors.keep`), and a record may join under the next key with its birth as
its only entry (`Mirrors.push`). -/
set_option autoImplicit false
namespace TicketMarket

/-- How the entries of a log speak of the records of a table: entries of type `φ`, records
of type `α` with statuses of type `σ`. -/
structure RecordKind (φ α σ : Type) where
  /-- The key of the record an entry is about, if any. -/
  subject : φ → Option Nat
  /-- The key of a record. -/
  key : α → Nat
  /-- The event an entry names. -/
  entryEvent : φ → Option EventId
  /-- The event a record belongs to. -/
  event : α → Option EventId
  /-- The status of a record, as the log tells it. -/
  status : α → σ
  /-- Whether an entry is the birth of its record. -/
  isBirth : φ → Bool
  /-- The status an entry leaves its record in, if it says. -/
  reads : φ → Option σ

namespace RecordKind

variable {φ α σ : Type} (kind : RecordKind φ α σ)

/-- The entries about the record with key `k`, in order. -/
def story (entries : List φ) (k : Nat) : List φ := entries.filter (kind.subject · == some k)

/-- A record is told by a log: its story opens with its birth and has no other, every
entry of it names the record's event, and the last one reads as the record's status. -/
structure Told (entries : List φ) (x : α) : Prop where
  born : (kind.story entries (kind.key x)).head?.map kind.isBirth = some true
  once : ∀ f ∈ (kind.story entries (kind.key x)).tail, kind.isBirth f = false
  event : ∀ f ∈ kind.story entries (kind.key x), kind.entryEvent f = kind.event x
  current : (kind.story entries (kind.key x)).getLast?.bind kind.reads = some (kind.status x)

/-- A table is mirrored by a log. -/
structure Mirrors (entries : List φ) (xs : List α) (next : Nat) : Prop where
  /-- Keys ascend, so no key is used twice. -/
  ascending : (xs.map kind.key).Pairwise (· < ·)
  /-- Every key is below the next one to be issued. -/
  below : ∀ x ∈ xs, kind.key x < next
  /-- Every record is told by the log. -/
  told : ∀ x ∈ xs, kind.Told entries x
  /-- Every entry is about a record of the table. -/
  complete : ∀ f ∈ entries, ∀ k, kind.subject f = some k → ∃ x ∈ xs, kind.key x = k

variable {kind}

theorem story_append (entries more : List φ) (k : Nat) :
    kind.story (entries ++ more) k = kind.story entries k ++ kind.story more k :=
  List.filter_append ..

theorem mem_story {entries : List φ} {k : Nat} {f : φ} :
    f ∈ kind.story entries k ↔ f ∈ entries ∧ kind.subject f = some k := by
  simp [story]

theorem story_eq_nil {entries : List φ} {k : Nat}
    (none : ∀ f ∈ entries, kind.subject f ≠ some k) : kind.story entries k = [] := by
  rw [story, List.filter_eq_nil_iff]
  intro f mem
  simpa using none f mem

/-- Entries about no record tell no story. -/
theorem story_quiet {entries : List φ} (none : ∀ f ∈ entries, kind.subject f = none) (k : Nat) :
    kind.story entries k = [] :=
  story_eq_nil fun f mem => by
    rw [none f mem]
    exact (Option.some_ne_none k).symm

/-- Only the entries about a record can speak of it. -/
theorem filterMap_story {β : Type} (entries : List φ) (k : Nat) (f : φ → Option β)
    (about : ∀ e b, f e = some b → kind.subject e = some k) :
    entries.filterMap f = (kind.story entries k).filterMap f := by
  rw [story, List.filterMap_filter]
  apply List.filterMap_congr
  intro e _
  by_cases subject : kind.subject e = some k
  · simp [subject]
  · have silent : f e = none := by
      cases h : f e with
      | none => rfl
      | some b => exact absurd (about e b h) subject
    simp [subject, silent]

/-- A record's life goes on: the new entries about it are no birth and name its event, and
the last of them reads as its new status, or there are none and its status stays. -/
theorem Told.extend {entries : List φ} {x : α} (told : kind.Told entries x) (more : List φ)
    (x' : α) (key : kind.key x' = kind.key x) (event : kind.event x' = kind.event x)
    (steps : ∀ f ∈ kind.story more (kind.key x),
      kind.isBirth f = false ∧ kind.entryEvent f = kind.event x)
    (current : (kind.story more (kind.key x) = [] ∧ kind.status x' = kind.status x) ∨
      (kind.story more (kind.key x)).getLast?.bind kind.reads = some (kind.status x')) :
    kind.Told (entries ++ more) x' := by
  obtain ⟨born, once, named, now⟩ := told
  -- the old story is not empty, as it opens with the birth
  obtain ⟨first, old, split⟩ : ∃ first old, kind.story entries (kind.key x) = first :: old := by
    cases h : kind.story entries (kind.key x) with
    | nil => simp [h] at born
    | cons first old => exact ⟨first, old, rfl⟩
  rw [split] at born once named now
  refine ⟨?_, ?_, ?_, ?_⟩
  · rw [key, story_append, split]
    exact born
  · rw [key, story_append, split]
    intro f mem
    rcases List.mem_append.mp mem with old | new
    · exact once f old
    · exact (steps f new).1
  · rw [key, story_append, split, event]
    intro f mem
    rcases List.mem_append.mp mem with old | new
    · exact named f old
    · exact (steps f new).2
  · rw [key, story_append, split, List.getLast?_append]
    rcases current with ⟨none, same⟩ | last
    · rw [none, same]
      exact now
    · cases ending : (kind.story more (kind.key x)).getLast? with
      | none => simp [ending] at last
      | some f =>
          rw [ending] at last
          simpa using last

/-- A record is born: the log had nothing about it, and the new entries hold only its
birth, which names its event and reads as its status. -/
theorem Told.birth {entries more : List φ} {x : α} (fresh : kind.story entries (kind.key x) = [])
    {b : φ} (only : kind.story more (kind.key x) = [b]) (birth : kind.isBirth b = true)
    (event : kind.entryEvent b = kind.event x) (reads : kind.reads b = some (kind.status x)) :
    kind.Told (entries ++ more) x := by
  refine ⟨?_, ?_, ?_, ?_⟩ <;> rw [story_append, fresh, only]
  · simpa using birth
  · simp
  · simpa using event
  · simpa using reads

namespace Mirrors

variable {entries : List φ} {xs : List α} {next : Nat}

/-- An empty table is mirrored by an empty log. -/
theorem start : kind.Mirrors [] [] next where
  ascending := List.Pairwise.nil
  below := by simp
  told := by simp
  complete := by simp

theorem key_lt (m : kind.Mirrors entries xs next) {f : φ} (mem : f ∈ entries) {k : Nat}
    (about : kind.subject f = some k) : k < next := by
  obtain ⟨x, memX, same⟩ := m.complete f mem k about
  rw [← same]
  exact m.below x memX

/-- No entry is about a key that no record has been given yet. -/
theorem story_fresh (m : kind.Mirrors entries xs next) : kind.story entries next = [] :=
  story_eq_nil fun _ mem about => Nat.lt_irrefl next (m.key_lt mem about)

/-- Two records of the table with one key are one record. -/
theorem eq_of_key (m : kind.Mirrors entries xs next) {x y : α} (memX : x ∈ xs) (memY : y ∈ xs)
    (same : kind.key x = kind.key y) : x = y :=
  List.inj_on_of_nodup_map (m.ascending.imp Nat.ne_of_lt) memX memY same

/-- Entries about no record leave the table mirrored. -/
theorem quiet (m : kind.Mirrors entries xs next) {more : List φ}
    (none : ∀ f ∈ more, kind.subject f = none) : kind.Mirrors (entries ++ more) xs next := by
  refine ⟨m.ascending, m.below, fun x mem => ?_, fun f mem k about => ?_⟩
  · exact (m.told x mem).extend more x rfl rfl (by simp [story_quiet none])
      (.inl ⟨story_quiet none _, rfl⟩)
  · rcases List.mem_append.mp mem with old | new
    · exact m.complete f old k about
    · rw [none f new] at about
      cases about

/-- Records changed in place, each by new entries about it that go on with its life and
the last of which reads as its new status, or by none when its status stays. -/
theorem update (m : kind.Mirrors entries xs next) {more : List φ} (g : α → α)
    (key : ∀ x ∈ xs, kind.key (g x) = kind.key x)
    (event : ∀ x ∈ xs, kind.event (g x) = kind.event x)
    (steps : ∀ x ∈ xs, ∀ f ∈ kind.story more (kind.key x),
      kind.isBirth f = false ∧ kind.entryEvent f = kind.event x)
    (current : ∀ x ∈ xs,
      (kind.story more (kind.key x) = [] ∧ kind.status (g x) = kind.status x) ∨
        (kind.story more (kind.key x)).getLast?.bind kind.reads = some (kind.status (g x)))
    (about : ∀ f ∈ more, ∀ k, kind.subject f = some k → ∃ x ∈ xs, kind.key x = k) :
    kind.Mirrors (entries ++ more) (xs.map g) next := by
  have keys : (xs.map g).map kind.key = xs.map kind.key := by
    rw [List.map_map]
    exact List.map_congr_left fun x mem => key x mem
  refine ⟨keys ▸ m.ascending, ?_, ?_, ?_⟩
  · intro y mem
    obtain ⟨x, memX, rfl⟩ := List.mem_map.mp mem
    rw [key x memX]
    exact m.below x memX
  · intro y mem
    obtain ⟨x, memX, rfl⟩ := List.mem_map.mp mem
    exact (m.told x memX).extend more (g x) (key x memX) (event x memX) (steps x memX)
      (current x memX)
  · intro f mem k subject
    obtain ⟨x, memX, same⟩ : ∃ x ∈ xs, kind.key x = k := by
      rcases List.mem_append.mp mem with old | new
      · exact m.complete f old k subject
      · exact about f new k subject
    exact ⟨g x, List.mem_map_of_mem memX, by rw [key x memX, same]⟩

/-- Records changed in place without a word in the log, keeping key, event and status. -/
theorem keep (m : kind.Mirrors entries xs next) {more : List φ}
    (none : ∀ f ∈ more, kind.subject f = none) (g : α → α)
    (key : ∀ x, kind.key (g x) = kind.key x) (event : ∀ x, kind.event (g x) = kind.event x)
    (status : ∀ x, kind.status (g x) = kind.status x) :
    kind.Mirrors (entries ++ more) (xs.map g) next := by
  refine m.update g (fun x _ => key x) (fun x _ => event x) (by simp [story_quiet none])
    (fun x _ => .inl ⟨story_quiet none _, status x⟩) fun f mem k about => ?_
  rw [none f mem] at about
  cases about

/-- One record changes in place, told by the new entries, which are about it alone and
go on with its life; every other record stays as it was. -/
theorem change (m : kind.Mirrors entries xs next) {more : List φ} (g : α → α) {x₀ : α}
    (mem : x₀ ∈ xs) (others : ∀ x ∈ xs, kind.key x ≠ kind.key x₀ → g x = x)
    (only : ∀ f ∈ more, ∀ k, kind.subject f = some k → k = kind.key x₀)
    (key : kind.key (g x₀) = kind.key x₀) (event : kind.event (g x₀) = kind.event x₀)
    (steps : ∀ f ∈ kind.story more (kind.key x₀),
      kind.isBirth f = false ∧ kind.entryEvent f = kind.event x₀)
    (current : (kind.story more (kind.key x₀) = [] ∧ kind.status (g x₀) = kind.status x₀) ∨
      (kind.story more (kind.key x₀)).getLast?.bind kind.reads = some (kind.status (g x₀))) :
    kind.Mirrors (entries ++ more) (xs.map g) next := by
  -- a record other than `x₀` has another key, so it stays and no new entry is about it
  have split : ∀ x ∈ xs, x = x₀ ∨ g x = x ∧ kind.story more (kind.key x) = [] := by
    intro x memX
    by_cases same : kind.key x = kind.key x₀
    · exact .inl (m.eq_of_key memX mem same)
    · exact .inr ⟨others x memX same,
        story_eq_nil fun f memF about => same (only f memF _ about)⟩
  refine m.update g (fun x memX => ?_) (fun x memX => ?_) (fun x memX => ?_) (fun x memX => ?_)
    fun f memF k about => ⟨x₀, mem, (only f memF k about).symm⟩
  · rcases split x memX with rfl | ⟨stays, -⟩
    · exact key
    · rw [stays]
  · rcases split x memX with rfl | ⟨stays, -⟩
    · exact event
    · rw [stays]
  · rcases split x memX with rfl | ⟨-, untold⟩
    · exact steps
    · simp [untold]
  · rcases split x memX with rfl | ⟨stays, untold⟩
    · exact current
    · exact .inl ⟨untold, by rw [stays]⟩

/-- A new record joins the table under the next key, and the new entries are about it
only and hold its birth alone. -/
theorem push (m : kind.Mirrors entries xs next) {more : List φ} (x : α)
    (fresh : kind.key x = next) (only : ∀ f ∈ more, ∀ k, kind.subject f = some k → k = next)
    {b : φ} (born : kind.story more next = [b]) (birth : kind.isBirth b = true)
    (event : kind.entryEvent b = kind.event x) (reads : kind.reads b = some (kind.status x)) :
    kind.Mirrors (entries ++ more) (xs ++ [x]) (next + 1) := by
  have others : ∀ y ∈ xs, kind.story more (kind.key y) = [] := fun y mem =>
    story_eq_nil fun f memF about => Nat.ne_of_lt (m.below y mem) (only f memF _ about)
  refine ⟨?_, ?_, ?_, ?_⟩
  · rw [List.map_append, List.pairwise_append]
    refine ⟨m.ascending, List.pairwise_singleton _ _, ?_⟩
    intro a memA c memC
    obtain ⟨y, memY, rfl⟩ := List.mem_map.mp memA
    simp only [List.map_cons, List.map_nil, List.mem_singleton] at memC
    rw [memC, fresh]
    exact m.below y memY
  · intro y mem
    rcases List.mem_append.mp mem with old | new
    · exact Nat.lt_succ_of_lt (m.below y old)
    · rw [List.mem_singleton.mp new, fresh]
      exact Nat.lt_succ_self next
  · intro y mem
    rcases List.mem_append.mp mem with old | new
    · exact (m.told y old).extend more y rfl rfl (by simp [others y old])
        (.inl ⟨others y old, rfl⟩)
    · rw [List.mem_singleton.mp new]
      exact Told.birth (fresh ▸ m.story_fresh) (fresh ▸ born) birth event reads
  · intro f mem k subject
    rcases List.mem_append.mp mem with old | new
    · obtain ⟨y, memY, same⟩ := m.complete f old k subject
      exact ⟨y, List.mem_append_left _ memY, same⟩
    · exact ⟨x, List.mem_append_right _ (List.mem_singleton_self x),
        by rw [fresh, only f new k subject]⟩

/-- A new record joins the table under the next key with its birth as the one new entry. -/
theorem push_one (m : kind.Mirrors entries xs next) (x : α) (fresh : kind.key x = next) {b : φ}
    (about : kind.subject b = some next) (birth : kind.isBirth b = true)
    (event : kind.entryEvent b = kind.event x) (reads : kind.reads b = some (kind.status x)) :
    kind.Mirrors (entries ++ [b]) (xs ++ [x]) (next + 1) := by
  have only : ∀ f ∈ [b], ∀ k, kind.subject f = some k → k = next := by
    intro f mem k subject
    rw [List.mem_singleton.mp mem, about] at subject
    exact (Option.some.inj subject).symm
  exact m.push x fresh only (by simp [story, about]) birth event reads

/-- One record changes in place into `y`, told by one new entry about it that goes on
with its life and reads as its new status. -/
theorem change_one (m : kind.Mirrors entries xs next) (g : α → α) {x₀ y : α} (mem : x₀ ∈ xs)
    (others : ∀ x ∈ xs, kind.key x ≠ kind.key x₀ → g x = x) (moved : g x₀ = y) {f : φ}
    (about : kind.subject f = some (kind.key x₀)) (key : kind.key y = kind.key x₀)
    (event : kind.event y = kind.event x₀) (birth : kind.isBirth f = false)
    (names : kind.entryEvent f = kind.event x₀) (reads : kind.reads f = some (kind.status y)) :
    kind.Mirrors (entries ++ [f]) (xs.map g) next := by
  subst moved
  have told : kind.story [f] (kind.key x₀) = [f] := by simp [story, about]
  refine m.change g mem others (fun e memE k subject => ?_) key event ?_ (.inr ?_)
  · rw [List.mem_singleton.mp memE, about] at subject
    exact (Option.some.inj subject).symm
  · rw [told]
    intro e memE
    rw [List.mem_singleton.mp memE]
    exact ⟨birth, names⟩
  · rw [told]
    exact reads

/-- The record with the identity of `x₀` changes in place by `f`, told by one new entry
about it; records are told apart by an identity that fixes their key. -/
theorem change_at (m : kind.Mirrors entries xs next) {ι : Type} [BEq ι] [LawfulBEq ι]
    (ident : α → ι) (keyed : ∀ x y, ident x = ident y → kind.key x = kind.key y) (f : α → α)
    {x₀ : α} (mem : x₀ ∈ xs) {e : φ} (about : kind.subject e = some (kind.key x₀))
    (key : kind.key (f x₀) = kind.key x₀) (event : kind.event (f x₀) = kind.event x₀)
    (birth : kind.isBirth e = false) (names : kind.entryEvent e = kind.event x₀)
    (reads : kind.reads e = some (kind.status (f x₀))) :
    kind.Mirrors (entries ++ [e]) (xs.map fun x => if ident x == ident x₀ then f x else x) next :=
  m.change_one _ mem (fun x _ other => if_neg fun same => other (keyed x x₀ (eq_of_beq same)))
    (if_pos (beq_self_eq_true _)) about key event birth names reads

/-- An entry about no record leaves the table mirrored. -/
theorem quiet_one (m : kind.Mirrors entries xs next) {f : φ} (none : kind.subject f = none) :
    kind.Mirrors (entries ++ [f]) xs next :=
  m.quiet fun e mem => by
    rw [List.mem_singleton.mp mem]
    exact none

theorem mem_keys (m : kind.Mirrors entries xs next) {f : φ} (mem : f ∈ entries) {k : Nat}
    (about : kind.subject f = some k) : k ∈ xs.map kind.key := by
  obtain ⟨x, memX, same⟩ := m.complete f mem k about
  exact List.mem_map.mpr ⟨x, memX, same⟩

end Mirrors
end RecordKind
end TicketMarket
