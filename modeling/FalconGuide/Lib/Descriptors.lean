import Mathlib.Data.List.Count
import Mathlib.Data.List.Perm.Basic
import Mathlib.Logic.Function.Basic

namespace FalconGuide.Lib

/-!
# Descriptors

The descriptor numbers of a process.  A number is used again after it was closed, so that what is
open under it is named by an id that is used once.

* `Descriptors` — what is open under every number, and the history of `accept` and `close`;
* `Descriptors.openFd`, `acceptFd`, `closeFd`, `closeFds`, `forgetFd` — what happens to them;
* `Descriptors.Owned` — an owner that holds the numbers of the accepted descriptors that are open,
  and has closed the others once, with one lemma an operation;
* `Descriptors.Tracked`, `Descriptors.misses` — the same of an owner that also closes numbers it
  does not hold, and how often it has.
-/

/-- The descriptors of a process.  Ids below `nextId` have been used. -/
structure Descriptors where
  /-- What the operating system has open under a number. -/
  table : ℕ → Option ℕ := fun _ => none
  nextId : ℕ := 0
  /-- The ids that `accept` has returned to the owner. -/
  accepted : List ℕ := []
  /-- The `close` calls of the owner: the number, and what was open under it. -/
  closes : List (ℕ × Option ℕ) := []

namespace Descriptors

/-! ### Operations -/

/-- Something is opened under a free number. -/
def openFd (d : Descriptors) (fd : ℕ) : Descriptors :=
  { d with table := Function.update d.table fd (some d.nextId), nextId := d.nextId + 1 }

/-- `accept` returns a free number. -/
def acceptFd (d : Descriptors) (fd : ℕ) : Descriptors :=
  { d.openFd fd with accepted := d.accepted ++ [d.nextId] }

/-- The owner closes a number. -/
def closeFd (d : Descriptors) (fd : ℕ) : Descriptors :=
  { d with table := Function.update d.table fd none, closes := d.closes ++ [(fd, d.table fd)] }

/-- The owner closes several numbers. -/
def closeFds (d : Descriptors) (fds : List ℕ) : Descriptors := fds.foldl closeFd d

/-- Somebody else closes a number. -/
def forgetFd (d : Descriptors) (fd : ℕ) : Descriptors :=
  { d with table := Function.update d.table fd none }

/-! ### Histories -/

/-- Something is open as `c`. -/
def IsOpen (d : Descriptors) (c : ℕ) : Prop := ∃ fd, d.table fd = some c

/-- How often the owner has closed `c`. -/
def closings (d : Descriptors) (c : ℕ) : ℕ := d.closes.countP (·.2 = some c)

/-- The owner of the numbers `fds`: these are the accepted descriptors that are open, and every
    other accepted one has been closed once. -/
structure Owned (fds : List ℕ) (d : Descriptors) : Prop where
  fresh : ∀ fd c, d.table fd = some c → c < d.nextId
  acceptedLt : ∀ c ∈ d.accepted, c < d.nextId
  injective : ∀ fd fd' c, d.table fd = some c → d.table fd' = some c → fd = fd'
  nodup : fds.Nodup
  isOpen : ∀ fd ∈ fds, ∃ c ∈ d.accepted, d.table fd = some c
  owned : ∀ fd c, d.table fd = some c → c ∈ d.accepted → fd ∈ fds
  /-- What a `close` found was open, and was returned by `accept`. -/
  hit : ∀ p ∈ d.closes, ∃ c ∈ d.accepted, p.2 = some c
  notYet : ∀ c ∈ d.accepted, d.IsOpen c → d.closings c = 0
  once : ∀ c ∈ d.accepted, ¬ d.IsOpen c → d.closings c = 1

variable {d : Descriptors} {fds : List ℕ} {fd c : ℕ}

theorem owned_init : Owned [] {} where
  fresh := nofun
  acceptedLt := nofun
  injective := nofun
  nodup := List.nodup_nil
  isOpen := nofun
  owned := nofun
  hit := nofun
  notYet := nofun
  once := nofun

/-- The order of the numbers does not matter. -/
theorem Owned.perm {fds' : List ℕ} (h : Owned fds d) (hperm : fds.Perm fds') : Owned fds' d :=
  { h with
    nodup := hperm.nodup_iff.mp h.nodup
    isOpen := fun fd hfd => h.isOpen fd (hperm.mem_iff.mpr hfd)
    owned := fun fd c htable hc => hperm.mem_iff.mp (h.owned fd c htable hc) }

/-- Nothing that was used is opened again. -/
theorem Owned.closings_eq_zero (h : Owned fds d) (hc : d.nextId ≤ c) : d.closings c = 0 := by
  rw [closings, List.countP_eq_zero]
  intro p hp
  obtain ⟨c', hc', heq⟩ := h.hit p hp
  have hlt := h.acceptedLt c' hc'
  simp only [heq, Option.some.injEq, decide_eq_true_eq]
  omega

theorem table_openFd (d : Descriptors) (fd fd' : ℕ) :
    (d.openFd fd).table fd' = if fd' = fd then some d.nextId else d.table fd' :=
  Function.update_apply _ _ _ _

theorem isOpen_openFd (hfree : d.table fd = none) (hc : c < d.nextId) :
    (d.openFd fd).IsOpen c ↔ d.IsOpen c := by
  refine exists_congr fun fd' => ?_
  rw [table_openFd]
  split
  · rename_i hfd
    rw [hfd, hfree]
    simp only [Option.some.injEq, reduceCtorEq, iff_false]
    omega
  · exact Iff.rfl

/-- **Opened by somebody else.** -/
theorem Owned.openFd (h : Owned fds d) (hfree : d.table fd = none) : Owned fds (d.openFd fd) where
  fresh fd' c hopen := by
    -- the entry is the new one, with the next id, or an old one
    rw [table_openFd] at hopen
    show c < d.nextId + 1
    split at hopen
    · cases hopen
      omega
    · have hlt := h.fresh fd' c hopen
      omega
  acceptedLt c hc := by
    have hlt := h.acceptedLt c hc
    show c < d.nextId + 1
    omega
  injective fd₁ fd₂ c h₁ h₂ := by
    rw [table_openFd] at h₁ h₂
    split at h₁
    · rename_i hfd₁
      split at h₂
      · rename_i hfd₂
        rw [hfd₁, hfd₂]
      · -- the new id is not in the old table
        cases h₁
        exact absurd (h.fresh fd₂ _ h₂) (Nat.lt_irrefl _)
    · split at h₂
      · cases h₂
        exact absurd (h.fresh fd₁ _ h₁) (Nat.lt_irrefl _)
      · exact h.injective fd₁ fd₂ c h₁ h₂
  nodup := h.nodup
  isOpen fd' hfd' := by
    obtain ⟨c, hc, htable⟩ := h.isOpen fd' hfd'
    refine ⟨c, hc, ?_⟩
    -- an owned number is taken, and `fd` was free
    have hne : fd' ≠ fd := by
      rintro rfl
      rw [hfree] at htable
      cases htable
    rw [table_openFd, if_neg hne]
    exact htable
  owned fd' c htable hc := by
    rw [table_openFd] at htable
    split at htable
    · cases htable
      exact absurd (h.acceptedLt _ hc) (Nat.lt_irrefl _)
    · exact h.owned fd' c htable hc
  hit := h.hit
  notYet c hc hopen := h.notYet c hc ((isOpen_openFd hfree (h.acceptedLt c hc)).mp hopen)
  once c hc hclosed :=
    h.once c hc fun hopen => hclosed ((isOpen_openFd hfree (h.acceptedLt c hc)).mpr hopen)

/-- **Accepted.** -/
theorem Owned.acceptFd (h : Owned fds d) (hfree : d.table fd = none) :
    Owned (fds ++ [fd]) (d.acceptFd fd) := by
  have ho := h.openFd hfree
  have hnew : (d.acceptFd fd).table fd = some d.nextId := by
    show (d.openFd fd).table fd = _
    rw [table_openFd, if_pos rfl]
  have hmem : ∀ c, c ∈ (d.acceptFd fd).accepted ↔ c ∈ d.accepted ∨ c = d.nextId := by
    intro c
    show c ∈ d.accepted ++ [d.nextId] ↔ _
    rw [List.mem_append, List.mem_singleton]
  have hnot : fd ∉ fds := by
    intro hfd
    obtain ⟨c, -, htable⟩ := h.isOpen fd hfd
    rw [hfree] at htable
    cases htable
  -- all but the id that is new is as when somebody else opens the number
  refine ⟨ho.fresh, ?_, ho.injective, ?_, ?_, ?_, ?_, ?_, ?_⟩
  · intro c hc
    rcases (hmem c).mp hc with hc | rfl
    · exact ho.acceptedLt c hc
    · exact Nat.lt_succ_self _
  · exact List.nodup_append.mpr ⟨h.nodup, List.pairwise_singleton _ fd, by
      rintro a ha b hb rfl
      exact hnot (List.mem_singleton.mp hb ▸ ha)⟩
  · intro fd' hfd'
    rcases List.mem_append.mp hfd' with hfd' | hfd'
    · obtain ⟨c, hc, htable⟩ := ho.isOpen fd' hfd'
      exact ⟨c, (hmem c).mpr (.inl hc), htable⟩
    · rw [List.mem_singleton.mp hfd']
      exact ⟨d.nextId, (hmem _).mpr (.inr rfl), hnew⟩
  · intro fd' c htable hc
    rcases (hmem c).mp hc with hc | rfl
    · exact List.mem_append_left _ (ho.owned fd' c htable hc)
    · rw [ho.injective fd' fd _ htable hnew]
      simp
  · intro p hp
    obtain ⟨c, hc, heq⟩ := h.hit p hp
    exact ⟨c, (hmem c).mpr (.inl hc), heq⟩
  · intro c hc hopen
    rcases (hmem c).mp hc with hc | rfl
    · exact ho.notYet c hc hopen
    -- an id that was never given out was never closed
    · exact h.closings_eq_zero (Nat.le_refl _)
  · intro c hc hclosed
    rcases (hmem c).mp hc with hc | rfl
    · exact ho.once c hc hclosed
    · exact absurd ⟨fd, hnew⟩ hclosed

theorem table_closeFd (d : Descriptors) (fd fd' : ℕ) :
    (d.closeFd fd).table fd' = if fd' = fd then none else d.table fd' :=
  Function.update_apply _ _ _ _

/-- What is open after somebody else closed a number was open before. -/
theorem table_of_forgetFd {fd' : ℕ} (h : (d.forgetFd fd).table fd' = some c) :
    d.table fd' = some c := by
  have hupdate : (d.forgetFd fd).table fd' = if fd' = fd then none else d.table fd' :=
    Function.update_apply _ _ _ _
  rw [hupdate] at h
  split at h
  · cases h
  · exact h

/-- **Closed by somebody else**, who did not accept it. -/
theorem Owned.forgetFd {c' : ℕ} (h : Owned fds d) (hopen : d.table fd = some c')
    (hc' : c' ∉ d.accepted) : Owned fds (d.forgetFd fd) := by
  have htable : ∀ fd' c, (d.forgetFd fd).table fd' = some c → d.table fd' = some c :=
    fun _ _ => table_of_forgetFd
  -- the number that goes was not of an accepted id, so those keep theirs
  have hkeeps : ∀ fd' c, c ∈ d.accepted → d.table fd' = some c →
      (d.forgetFd fd).table fd' = some c := by
    intro fd' c hc hfd'
    have hne : fd' ≠ fd := by
      rintro rfl
      rw [hopen] at hfd'
      cases hfd'
      exact hc' hc
    exact (Function.update_of_ne hne _ _).trans hfd'
  have hiff : ∀ c ∈ d.accepted, ((d.forgetFd fd).IsOpen c ↔ d.IsOpen c) := fun c hc =>
    exists_congr fun fd' => ⟨htable fd' c, hkeeps fd' c hc⟩
  refine ⟨?_, h.acceptedLt, ?_, h.nodup, ?_, ?_, h.hit, ?_, ?_⟩
  · intro fd' c hfd'
    exact h.fresh fd' c (htable fd' c hfd')
  · intro fd₁ fd₂ c h₁ h₂
    exact h.injective fd₁ fd₂ c (htable fd₁ c h₁) (htable fd₂ c h₂)
  · intro fd' hfd'
    obtain ⟨c, hc, hopen'⟩ := h.isOpen fd' hfd'
    exact ⟨c, hc, hkeeps fd' c hc hopen'⟩
  · intro fd' c hfd' hc
    exact h.owned fd' c (htable fd' c hfd') hc
  · intro c hc hopen'
    exact h.notYet c hc ((hiff c hc).mp hopen')
  · intro c hc hclosed
    exact h.once c hc fun hopen' => hclosed ((hiff c hc).mpr hopen')

/-- **Closed by the owner.** -/
theorem Owned.closeFd (h : Owned fds d) (hfd : fd ∈ fds) : Owned (fds.erase fd) (d.closeFd fd) := by
  obtain ⟨c₀, hc₀, hopen⟩ := h.isOpen fd hfd
  have hcloses : (d.closeFd fd).closes = d.closes ++ [(fd, some c₀)] := by
    show d.closes ++ [(fd, d.table fd)] = _
    rw [hopen]
  have hclosings : ∀ c, (d.closeFd fd).closings c = d.closings c + if c = c₀ then 1 else 0 := by
    intro c
    rw [closings, hcloses, List.countP_append, List.countP_singleton, closings]
    congr 1
    simp [eq_comm]
  have hne : ∀ fd' c, (d.closeFd fd).table fd' = some c → fd' ≠ fd ∧ d.table fd' = some c := by
    intro fd' c hfd'
    rw [table_closeFd] at hfd'
    split at hfd'
    · cases hfd'
    · rename_i hne
      exact ⟨hne, hfd'⟩
  have hmem := fun fd' => List.Nodup.mem_erase_iff (a := fd') (b := fd) h.nodup
  refine ⟨?_, h.acceptedLt, ?_, h.nodup.erase fd, ?_, ?_, ?_, ?_, ?_⟩
  · intro fd' c hfd'
    exact h.fresh fd' c (hne fd' c hfd').2
  · intro fd₁ fd₂ c h₁ h₂
    exact h.injective fd₁ fd₂ c (hne fd₁ c h₁).2 (hne fd₂ c h₂).2
  · intro fd' hfd'
    obtain ⟨hother, hin⟩ := (hmem fd').mp hfd'
    obtain ⟨c, hc, htable⟩ := h.isOpen fd' hin
    refine ⟨c, hc, ?_⟩
    rw [table_closeFd, if_neg hother]
    exact htable
  · intro fd' c hfd' hc
    obtain ⟨hother, htable⟩ := hne fd' c hfd'
    exact (hmem fd').mpr ⟨hother, h.owned fd' c htable hc⟩
  · intro p hp
    rw [hcloses] at hp
    rcases List.mem_append.mp hp with hp | hp
    · exact h.hit p hp
    · rw [List.mem_singleton.mp hp]
      exact ⟨c₀, hc₀, rfl⟩
  · rintro c hc ⟨fd', hfd'⟩
    obtain ⟨hother, htable⟩ := hne fd' c hfd'
    -- what is still open is not what was closed
    have hc' : c ≠ c₀ := by
      rintro rfl
      exact hother (h.injective fd' fd c htable hopen)
    rw [hclosings, if_neg hc', h.notYet c hc ⟨fd', htable⟩]
  · intro c hc hclosed
    rw [hclosings]
    -- the closed id has now been closed once, and the others as before
    by_cases hc' : c = c₀
    · rw [if_pos hc', hc', h.notYet c₀ hc₀ ⟨fd, hopen⟩]
    · rw [if_neg hc', Nat.add_zero]
      refine h.once c hc fun ⟨fd', htable⟩ => hclosed ⟨fd', ?_⟩
      have hother : fd' ≠ fd := by
        rintro rfl
        rw [hopen] at htable
        exact hc' (Option.some.inj htable).symm
      rw [table_closeFd, if_neg hother]
      exact htable

theorem nextId_closeFds (d : Descriptors) (gone : List ℕ) :
    (d.closeFds gone).nextId = d.nextId := by
  induction gone generalizing d with
  | nil => rfl
  | cons fd gone ih => exact ih (d.closeFd fd)

/-- What is open after several closes was open before. -/
theorem table_of_closeFds {gone : List ℕ} (h : (d.closeFds gone).table fd = some c) :
    d.table fd = some c := by
  induction gone generalizing d with
  | nil => exact h
  | cons fd' gone ih =>
    have hfirst := ih h
    rw [table_closeFd] at hfirst
    split at hfirst
    · cases hfirst
    · exact hfirst

/-- A number in the middle of those that are held. -/
theorem Owned.closeFd_middle {before after : List ℕ} (h : Owned (before ++ fd :: after) d) :
    Owned (before ++ after) (d.closeFd fd) := by
  have hfirst := (h.perm List.perm_middle).closeFd List.mem_cons_self
  rwa [List.erase_cons_head] at hfirst

/-- **All closed by the owner.** -/
theorem Owned.closeFds (h : Owned fds d) : Owned [] (d.closeFds fds) := by
  induction fds generalizing d with
  | nil => exact h
  | cons fd fds ih =>
    have hfirst := h.closeFd (List.mem_cons_self)
    rw [List.erase_cons_head] at hfirst
    exact ih hfirst

/-! ### Closing what is not held -/

/-- A `close` that found something that was accepted. -/
def Hit (d : Descriptors) (p : ℕ × Option ℕ) : Prop := ∃ c ∈ d.accepted, p.2 = some c

instance (d : Descriptors) (p : ℕ × Option ℕ) : Decidable (d.Hit p) :=
  inferInstanceAs (Decidable (∃ c ∈ d.accepted, p.2 = some c))

/-- How often the owner has closed nothing, or what is not its own. -/
def misses (d : Descriptors) : ℕ := d.closes.countP fun p => ¬ d.Hit p

/-- The history without these. -/
def hits (d : Descriptors) : Descriptors := { d with closes := d.closes.filter fun p => d.Hit p }

/-- An owner of the numbers `fds`, which may close others. -/
structure Tracked (fds : List ℕ) (d : Descriptors) : Prop where
  owned : Owned fds d.hits
  past : ∀ p ∈ d.closes, ∀ c, p.2 = some c → c < d.nextId

/-- Accepted descriptors are closed as often as without the misses. -/
theorem closings_hits (hc : c ∈ d.accepted) : d.hits.closings c = d.closings c := by
  rw [closings, closings, hits, List.countP_filter]
  refine List.countP_congr fun p _ => ?_
  simp only [Bool.and_eq_true, decide_eq_true_eq, and_iff_left_iff_imp]
  exact fun heq => ⟨c, hc, heq⟩

/-- An accepted descriptor is closed at most once. -/
theorem Tracked.closings_le_one (h : Tracked fds d) (hc : c ∈ d.accepted) : d.closings c ≤ 1 := by
  rw [← closings_hits hc]
  by_cases hopen : d.IsOpen c
  · exact Nat.le_succ_of_le (Nat.le_of_eq (h.owned.notYet c hc hopen))
  · exact Nat.le_of_eq (h.owned.once c hc hopen)

/-- An owner of nothing has closed all that was accepted. -/
theorem Tracked.closed (h : Tracked [] d) (hc : c ∈ d.accepted) :
    ¬ d.IsOpen c ∧ d.closings c = 1 := by
  have hclosed : ¬ d.IsOpen c := by
    rintro ⟨fd, hfd⟩
    exact List.not_mem_nil (h.owned.owned fd c hfd hc)
  exact ⟨hclosed, (closings_hits hc).symm.trans (h.owned.once c hc hclosed)⟩

theorem tracked_init : Tracked [] {} where
  owned := owned_init
  past := nofun

theorem Tracked.openFd (h : Tracked fds d) (hfree : d.table fd = none) :
    Tracked fds (d.openFd fd) where
  owned := h.owned.openFd hfree
  past p hp c hc := Nat.lt_succ_of_lt (h.past p hp c hc)

theorem Tracked.forgetFd {c' : ℕ} (h : Tracked fds d) (hopen : d.table fd = some c')
    (hc' : c' ∉ d.accepted) : Tracked fds (d.forgetFd fd) where
  owned := h.owned.forgetFd hopen hc'
  past := h.past

/-- An id that is new was not found by any `close`. -/
theorem Tracked.hit_acceptFd (h : Tracked fds d) {p : ℕ × Option ℕ} (hp : p ∈ d.closes) :
    (d.acceptFd fd).Hit p ↔ d.Hit p := by
  constructor
  · rintro ⟨c, hc, heq⟩
    rcases List.mem_append.mp hc with hold | hnew
    · exact ⟨c, hold, heq⟩
    · rw [List.mem_singleton] at hnew
      subst hnew
      exact absurd (h.past p hp _ heq) (Nat.lt_irrefl _)
  · rintro ⟨c, hc, heq⟩
    exact ⟨c, List.mem_append_left _ hc, heq⟩

theorem Tracked.acceptFd (h : Tracked fds d) (hfree : d.table fd = none) :
    Tracked (fds ++ [fd]) (d.acceptFd fd) where
  owned := by
    have hcloses : (d.acceptFd fd).closes.filter (fun p => (d.acceptFd fd).Hit p)
        = d.closes.filter fun p => d.Hit p :=
      List.filter_congr fun p hp => decide_eq_decide.mpr (h.hit_acceptFd hp)
    have heq : (d.acceptFd fd).hits = d.hits.acceptFd fd := by
      rw [hits, hcloses]
      rfl
    rw [heq]
    exact h.owned.acceptFd hfree
  past p hp c hc := Nat.lt_succ_of_lt (h.past p hp c hc)

theorem Tracked.misses_acceptFd (h : Tracked fds d) : (d.acceptFd fd).misses = d.misses :=
  List.countP_congr fun p hp => by
    simp only [decide_eq_true_eq]
    exact not_congr (h.hit_acceptFd hp)

/-- **Closed by the owner**, what it holds. -/
theorem Tracked.closeFd (h : Tracked fds d) (hfd : fd ∈ fds) :
    Tracked (fds.erase fd) (d.closeFd fd) ∧ (d.closeFd fd).misses = d.misses := by
  obtain ⟨c, hc, hopen⟩ := h.owned.isOpen fd hfd
  have hhit : (d.closeFd fd).Hit (fd, d.table fd) := ⟨c, hc, hopen⟩
  have heq : (d.closeFd fd).hits = d.hits.closeFd fd := by
    have hcloses : (d.closes ++ [(fd, d.table fd)]).filter (fun p => (d.closeFd fd).Hit p)
        = d.closes.filter (fun p => d.Hit p) ++ [(fd, d.table fd)] := by
      rw [List.filter_append, List.filter_cons_of_pos (by simpa using hhit)]
      rfl
    rw [hits, show (d.closeFd fd).closes = d.closes ++ [(fd, d.table fd)] from rfl, hcloses]
    rfl
  refine ⟨⟨?_, ?_⟩, ?_⟩
  · rw [heq]
    exact h.owned.closeFd hfd
  · intro p hp c' hc'
    rcases List.mem_append.mp hp with hp | hp
    · exact h.past p hp c' hc'
    · rw [List.mem_singleton.mp hp] at hc'
      exact h.owned.fresh fd c' hc'
  · show (d.closes ++ [(fd, d.table fd)]).countP (fun p => ¬ (d.closeFd fd).Hit p) = d.misses
    rw [List.countP_append, List.countP_singleton, if_neg (by simpa using hhit), Nat.add_zero]
    rfl

/-- **Closed by the owner**, what it does not hold. -/
theorem Tracked.closeFd_other (h : Tracked fds d) (hfd : fd ∉ fds) :
    Tracked fds (d.closeFd fd) ∧ (d.closeFd fd).misses = d.misses + 1 := by
  have hmiss : ¬ (d.closeFd fd).Hit (fd, d.table fd) := by
    rintro ⟨c, hc, hopen⟩
    exact hfd (h.owned.owned fd c hopen hc)
  have hcloses : (d.closeFd fd).hits.closes = d.hits.closes := by
    show (d.closes ++ [(fd, d.table fd)]).filter (fun p => (d.closeFd fd).Hit p) = _
    rw [List.filter_append, List.filter_cons_of_neg (by simpa using hmiss), List.filter_nil,
      List.append_nil]
    rfl
  have hforget : (d.closeFd fd).hits = d.hits.forgetFd fd := by
    rw [hits, Descriptors.forgetFd, ← hcloses]
    rfl
  refine ⟨⟨?_, ?_⟩, ?_⟩
  · rw [hforget]
    cases htable : d.table fd with
    | none =>
      have hsame : d.hits.forgetFd fd = d.hits := by
        rw [Descriptors.forgetFd, show Function.update d.hits.table fd none = d.hits.table from
          Function.update_eq_self_iff.mpr htable.symm]
      rw [hsame]
      exact h.owned
    | some c =>
      refine h.owned.forgetFd htable fun hc => hfd (h.owned.owned fd c htable hc)
  · intro p hp c' hc'
    rcases List.mem_append.mp hp with hp | hp
    · exact h.past p hp c' hc'
    · rw [List.mem_singleton.mp hp] at hc'
      exact h.owned.fresh fd c' hc'
  · show (d.closes ++ [(fd, d.table fd)]).countP (fun p => ¬ (d.closeFd fd).Hit p) = d.misses + 1
    rw [List.countP_append, List.countP_singleton, if_pos (by simpa using hmiss)]
    rfl

/-- **Several closed by the owner**, out of those it holds. -/
theorem Tracked.closeFds_append {before after gone : List ℕ} (h : Tracked (before ++ after) d)
    (hsub : gone ⊆ before) (hnodup : gone.Nodup) :
    Tracked (gone.foldl List.erase before ++ after) (d.closeFds gone) ∧
      (d.closeFds gone).misses = d.misses := by
  induction gone generalizing before d with
  | nil => exact ⟨h, rfl⟩
  | cons fd gone ih =>
    obtain ⟨hfd, hgone⟩ := List.nodup_cons.mp hnodup
    have hmem : fd ∈ before := hsub List.mem_cons_self
    obtain ⟨hfirst, hmisses⟩ := h.closeFd (List.mem_append_left after hmem)
    rw [List.erase_append_left _ hmem] at hfirst
    -- the others are still there
    have hrest : gone ⊆ before.erase fd := by
      intro fd' hfd'
      have hne : fd' ≠ fd := fun heq => hfd (heq ▸ hfd')
      exact (List.mem_erase_of_ne hne).mpr (hsub (List.mem_cons_of_mem fd hfd'))
    obtain ⟨hall, hmisses'⟩ := ih hfirst hrest hgone
    exact ⟨hall, hmisses'.trans hmisses⟩

/-- An owner that has closed only what it held. -/
theorem Tracked.owned_of_misses (h : Tracked fds d) (hmisses : d.misses = 0) : Owned fds d := by
  have hall : ∀ p ∈ d.closes, d.Hit p := by
    intro p hp
    simpa using List.countP_eq_zero.mp hmisses p hp
  have heq : d.hits = d := by
    rw [hits, List.filter_eq_self.mpr fun p hp => by simpa using hall p hp]
  exact heq ▸ h.owned

end Descriptors

end FalconGuide.Lib
