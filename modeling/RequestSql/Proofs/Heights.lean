import RequestSql.Proofs.Reuse
import RequestSql.Proofs.RoundTrip

namespace RequestSql

open Text (Breaks)

namespace Filter

inductive Branch where
  | left | right | negated
  deriving DecidableEq

/-- The ways from the root to the comparisons, from left to right. -/
def paths : Filter → List (List Branch)
  | .comparison _ _ _ => [[]]
  | .logical _ left right => left.paths.map (.left :: ·) ++ right.paths.map (.right :: ·)
  | .not inner => inner.paths.map (.negated :: ·)

section Paths

variable {e left right : Filter} {op : LogicalOp} {p : List Branch}

theorem mem_paths_logical : p ∈ (Filter.logical op left right).paths ↔
    (∃ q ∈ left.paths, .left :: q = p) ∨ ∃ q ∈ right.paths, .right :: q = p := by
  rw [paths, List.mem_append, List.mem_map, List.mem_map]

theorem mem_paths_not : p ∈ (Filter.not e).paths ↔ ∃ q ∈ e.paths, .negated :: q = p :=
  List.mem_map

theorem length_paths (e : Filter) : e.paths.length = e.paramCount := by
  induction e with
  | comparison _ _ _ => rfl
  | logical _ _ _ ihl ihr =>
    rw [paths, List.length_append, List.length_map, List.length_map, ihl, ihr, paramCount]
  | not _ ih => rw [paths, List.length_map, ih, paramCount]

/-- Every connective on a path leaves a comparison aside. -/
theorem length_le_of_mem_paths (h : p ∈ e.paths) :
    p.length + 1 ≤ e.paramCount + p.count .negated := by
  induction e generalizing p with
  | comparison _ _ _ =>
    obtain rfl := List.mem_singleton.mp h
    exact Nat.le_refl _
  | logical _ left right ihl ihr =>
    have hl := left.paramCount_pos
    have hr := right.paramCount_pos
    obtain ⟨q, hq, rfl⟩ | ⟨q, hq, rfl⟩ := mem_paths_logical.mp h
    · have hlength := ihl hq
      rw [paramCount, List.length_cons, List.count_cons_of_ne (by decide)]
      omega
    · have hlength := ihr hq
      rw [paramCount, List.length_cons, List.count_cons_of_ne (by decide)]
      omega
  | not _ ih =>
    obtain ⟨q, hq, rfl⟩ := mem_paths_not.mp h
    have hlength := ih hq
    rw [paramCount, List.length_cons, List.count_cons_self]
    omega

/-- Some path is as long as the filter is nested. -/
theorem exists_longest_path (e : Filter) : ∃ p ∈ e.paths, p.length = e.nesting := by
  induction e with
  | comparison _ _ _ => exact ⟨[], List.mem_singleton_self _, rfl⟩
  | logical _ left right ihl ihr =>
    obtain ⟨p, hp, hl⟩ := ihl
    obtain ⟨q, hq, hr⟩ := ihr
    rcases Nat.le_total left.nesting right.nesting with h | h
    · refine ⟨.right :: q, mem_paths_logical.mpr (.inr ⟨q, hq, rfl⟩), ?_⟩
      rw [List.length_cons, hr, nesting, Nat.max_eq_right h]
    · refine ⟨.left :: p, mem_paths_logical.mpr (.inl ⟨p, hp, rfl⟩), ?_⟩
      rw [List.length_cons, hl, nesting, Nat.max_eq_left h]
  | not _ ih =>
    obtain ⟨p, hp, h⟩ := ih
    refine ⟨.negated :: p, mem_paths_not.mpr ⟨p, hp, rfl⟩, ?_⟩
    rw [List.length_cons, h, nesting]

end Paths

end Filter

/-- A path meets no more negations than are open at the deepest point of the text. -/
theorem Derives.negations_le {layer : Layer} {w : List TokenKind} {e : Filter} {d n : Nat}
    (h : Derives layer w e d n) : ∀ p ∈ e.paths, p.count .negated ≤ d := by
  induction h with
  | single _ ih | operand _ ih | plain _ ih => exact ih
  | or _ _ ihl ihr | and _ _ ihl ihr =>
    intro p hp
    obtain ⟨q, hq, rfl⟩ | ⟨q, hq, rfl⟩ := Filter.mem_paths_logical.mp hp
    · rw [List.count_cons_of_ne (by decide)]
      exact Nat.le_trans (ihl q hq) (Nat.le_max_left _ _)
    · rw [List.count_cons_of_ne (by decide)]
      exact Nat.le_trans (ihr q hq) (Nat.le_max_right _ _)
  | not _ ih =>
    intro p hp
    obtain ⟨q, hq, rfl⟩ := Filter.mem_paths_not.mp hp
    rw [List.count_cons_self]
    exact Nat.succ_le_succ (ih q hq)
  | parentheses _ ih => exact fun p hp => Nat.le_succ_of_le (ih p hp)
  | comparison _ _ =>
    intro p hp
    rw [List.mem_singleton.mp hp]
    exact Nat.le_refl _

/-- A function on filters that calls itself once on each operand. For a negation it may look at the
operand too. -/
structure Recursion (α : Type) where
  comparison : Text → CompareOp → Value → α
  logical : LogicalOp → α → α → α
  not : Filter → α → α

namespace Recursion

variable {α : Type}

def run (f : Recursion α) : Filter → α
  | .comparison field op value => f.comparison field op value
  | .logical op left right => f.logical op (f.run left) (f.run right)
  | .not inner => f.not inner (f.run inner)

/-- The function on a stack that has room for `n` calls inside the first one. There is no answer if it
overflows. -/
def runWithin? (f : Recursion α) : Nat → Filter → Option α
  | _, .comparison field op value => some (f.comparison field op value)
  | n + 1, .logical op left right => do
    return f.logical op (← f.runWithin? n left) (← f.runWithin? n right)
  | n + 1, .not inner => do return f.not inner (← f.runWithin? n inner)
  | 0, _ => none

/-- The room that is needed is the nesting of the filter. -/
theorem runWithin?_eq (f : Recursion α) (n : Nat) (e : Filter) :
    f.runWithin? n e = if e.nesting ≤ n then some (f.run e) else none := by
  induction e generalizing n with
  | comparison field op value => simp [runWithin?, run, Filter.nesting]
  | logical op left right ihl ihr =>
    cases n with
    | zero => simp [runWithin?, Filter.nesting]
    | succ n =>
      rw [runWithin?, ihl, ihr, Filter.nesting, run]
      by_cases hl : left.nesting ≤ n <;> by_cases hr : right.nesting ≤ n <;> simp [hl, hr]
  | not inner ih =>
    cases n with
    | zero => simp [runWithin?, Filter.nesting]
    | succ n =>
      rw [runWithin?, ih, Filter.nesting, run]
      by_cases h : inner.nesting ≤ n <;> simp [h]

def fields : Recursion (List Text) where
  comparison field _ _ := [field]
  logical _ left right := left ++ right
  not _ inner := inner

def paramCount : Recursion Nat where
  comparison _ _ _ := 1
  logical _ left right := left + right
  not _ inner := inner

def mapFields (f : Text → Text) : Recursion Filter where
  comparison field op value := .comparison (f field) op value
  logical op left right := .logical op left right
  not _ inner := .not inner

def fragment : Recursion Fragment where
  comparison field op value := [.text field, .text (' ' :: op.sql ++ [' ']), .parameter value]
  logical op left right :=
    .text ['('] :: left ++ .text (' ' :: op.sql ++ [' ']) :: right ++ [.text [')']]
  not operand inner :=
    match operand with
    | .logical _ _ _ => .text "NOT ".toList :: inner
    | _ => .text "NOT (".toList :: inner ++ [.text [')']]

theorem run_fields (e : Filter) : fields.run e = e.fields := by
  induction e with
  | comparison _ _ _ => rfl
  | logical _ _ _ ihl ihr => rw [run, ihl, ihr, Filter.fields]; rfl
  | not _ ih => rw [run, ih, Filter.fields]; rfl

theorem run_paramCount (e : Filter) : paramCount.run e = e.paramCount := by
  induction e with
  | comparison _ _ _ => rfl
  | logical _ _ _ ihl ihr => rw [run, ihl, ihr, Filter.paramCount]; rfl
  | not _ ih => rw [run, ih, Filter.paramCount]; rfl

theorem run_mapFields (f : Text → Text) (e : Filter) : (mapFields f).run e = e.mapFields f := by
  induction e with
  | comparison _ _ _ => rfl
  | logical _ _ _ ihl ihr => rw [run, ihl, ihr, Filter.mapFields]; rfl
  | not _ ih => rw [run, ih, Filter.mapFields]; rfl

theorem run_fragment (e : Filter) : fragment.run e = e.fragment := by
  induction e with
  | comparison _ _ _ => rfl
  | logical _ _ _ ihl ihr => rw [run, ihl, ihr, Filter.fragment]; rfl
  | not inner ih =>
    rw [run, ih]
    cases inner <;> rfl

end Recursion

/-- An accepted filter has at most 1024 comparisons, no path from its root to a comparison meets more
than 128 negations, and none is longer than both together allow. So the functions that call themselves
on its operands nest no more calls than that. -/
theorem Filter.parse_bounded {t : Text} {e : Filter} (h : parse t = .ok e) :
    e.paths.length ≤ 1024 ∧
    (∀ p ∈ e.paths, p.count .negated ≤ 128 ∧ p.length ≤ 1023 + 128) ∧
    e.nesting ≤ 1023 + 128 ∧
    Recursion.fields.runWithin? (1023 + 128) e = some e.fields ∧
    Recursion.paramCount.runWithin? (1023 + 128) e = some e.paramCount ∧
    (∀ f, (Recursion.mapFields f).runWithin? (1023 + 128) e = some (e.mapFields f)) ∧
    Recursion.fragment.runWithin? (1023 + 128) e = some e.fragment := by
  obtain ⟨d, n, hderives, hd, hn⟩ := (parse_eq_ok t e).mp h
  obtain rfl := hderives.count_eq
  have hpaths : ∀ p ∈ e.paths, p.count .negated ≤ 128 ∧ p.length ≤ 1023 + 128 := by
    intro p hp
    have hnegations := hderives.negations_le p hp
    have hlength := length_le_of_mem_paths hp
    omega
  have hnesting : e.nesting ≤ 1023 + 128 := by
    obtain ⟨p, hp, hlength⟩ := e.exists_longest_path
    rw [← hlength]
    exact (hpaths p hp).2
  have hroom {α : Type} (f : Recursion α) : f.runWithin? (1023 + 128) e = some (f.run e) := by
    rw [f.runWithin?_eq, if_pos hnesting]
  refine ⟨e.length_paths ▸ hn, hpaths, hnesting, ?_, ?_, fun f => ?_, ?_⟩
  · rw [hroom, Recursion.run_fields]
  · rw [hroom, Recursion.run_paramCount]
  · rw [hroom, Recursion.run_mapFields]
  · rw [hroom, Recursion.run_fragment]

namespace Filter

def brick : Filter :=
  .comparison ['a'] .eq .null

def tower (negations : Nat) : Nat → Filter
  | 0 => brick.negate negations
  | connectives + 1 => .logical .and (tower negations connectives) brick

def towerText (negations : Nat) : Nat → Text
  | 0 => (brick.negate negations).print
  | connectives + 1 =>
    towerText negations connectives ++ ' ' :: ("and".toList ++ ' ' :: brick.print)

section Towers

theorem nesting_negate (k : Nat) (e : Filter) : (e.negate k).nesting = e.nesting + k := by
  induction k generalizing e with
  | zero => rfl
  | succ k ih => rw [negate, ih, nesting, Nat.add_right_comm, Nat.add_assoc]

theorem paramCount_negate (k : Nat) (e : Filter) : (e.negate k).paramCount = e.paramCount := by
  induction k generalizing e with
  | zero => rfl
  | succ k ih => rw [negate, ih, paramCount]

theorem Printable.negate {e : Filter} (h : e.Printable) (k : Nat) : (e.negate k).Printable := by
  induction k generalizing e with
  | zero => exact h
  | succ k ih => exact ih ⟨h.fields, h.values⟩

theorem nesting_tower (k n : Nat) : (tower k n).nesting = n + k := by
  induction n with
  | zero => exact nesting_negate k brick
  | succ n ih =>
    rw [tower, nesting, ih, brick, nesting]
    omega

theorem printable_brick : brick.Printable :=
  ⟨by decide, by decide⟩

/-- The text of a tower spells the tower, with nothing open but its negations. -/
theorem tower_derived (k n : Nat) : ∃ w, Derives .conjunction w (tower k n) k (n + 1) ∧
    ∀ rest, Breaks rest → Lexer.kinds (towerText k n ++ rest) = w ++ Lexer.kinds rest := by
  induction n with
  | zero =>
    have hderives := (tower k 0).derives_spelling
    rw [nesting_tower, Nat.zero_add, tower, paramCount_negate] at hderives
    exact ⟨_, .operand hderives, fun rest hrest =>
      kinds_print _ (printable_brick.negate k) hrest⟩
  | succ n ih =>
    obtain ⟨w, hderives, hkinds⟩ := ih
    have hmore := hderives.and brick.derives_spelling
    rw [show brick.nesting = 0 from rfl, Nat.max_zero] at hmore
    refine ⟨_, hmore, fun rest hrest => ?_⟩
    have hand : Lexer.Scans "and".toList (.keyword .and) (' ' :: (brick.print ++ rest)) :=
      Lexer.scans_keyword (by decide) (Lexer.breaks_space _)
    have htext : towerText k (n + 1) ++ rest =
        towerText k n ++ ' ' :: ("and".toList ++ ' ' :: (brick.print ++ rest)) := by
      simp only [towerText, List.append_assoc, List.cons_append]
    rw [htext, hkinds _ (Lexer.breaks_space _), Lexer.kinds_space, hand.kinds_append,
      Lexer.kinds_space, kinds_print brick printable_brick hrest, List.append_assoc,
      List.cons_append]

theorem parse_towerText {k n : Nat} (hk : k ≤ 128) (hn : n ≤ 1023) :
    parse (towerText k n) = .ok (tower k n) := by
  obtain ⟨w, hderives, hkinds⟩ := tower_derived k n
  have hend : Lexer.kinds (towerText k n) = w := by
    rw [← List.append_nil (towerText k n), hkinds [] Lexer.breaks_nil]
    exact List.append_nil _
  rw [parse_eq_ok, ← Lexer.kinds, hend]
  exact ⟨k, n + 1, hderives.single, hk, Nat.succ_le_succ hn⟩

end Towers

/-- The bound is reached: a stack with less room overflows. -/
theorem parse_bounded_tower :
    parse (towerText 128 1023) = .ok (tower 128 1023) ∧
      (tower 128 1023).nesting = 1023 + 128 ∧
      Recursion.fragment.runWithin? (1023 + 128) (tower 128 1023) =
        some (tower 128 1023).fragment ∧
      Recursion.fragment.runWithin? 1150 (tower 128 1023) = none := by
  have h : parse (towerText 128 1023) = .ok (tower 128 1023) :=
    parse_towerText (by omega) (by omega)
  obtain ⟨_, _, _, _, _, _, hfragment⟩ := parse_bounded h
  refine ⟨h, nesting_tower 128 1023, hfragment, ?_⟩
  rw [Recursion.runWithin?_eq, nesting_tower, if_neg (by omega)]

end Filter

end RequestSql
