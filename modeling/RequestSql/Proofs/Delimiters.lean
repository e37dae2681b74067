import RequestSql.Proofs.Literals

namespace RequestSql

namespace Text

def isTermChar (c : Char) : Bool :=
  isNameChar c || c == '*'

structure IsTerm (t : Text) : Prop where
  ne_nil : t ≠ []
  chars : ∀ c ∈ t, isTermChar c = true

def Ends (t : Text) : Prop :=
  ∀ c ∈ t.head?, isTermChar c = false

/-- Nothing, or a clause that begins with one of the words after a space. -/
def Opens (words : List Text) (t : Text) : Prop :=
  t = [] ∨ ∃ w ∈ words, (' ' :: w) <+: t

/-- What stands after an entry of a list: another entry, or what stands after the list. -/
def Follows (words : List Text) (t : Text) : Prop :=
  (∃ u, t = ',' :: u) ∨ Opens words t

def isApart (word : Text) (words : List Text) : Bool :=
  words.all fun w => !w.isPrefixOf word && !word.isPrefixOf w

section Terms

variable {c : Char} {a b t u v word : Text} {words : List Text}

theorem IsTerm.of_name (hne : t ≠ []) (ht : t.IsName) : t.IsTerm where
  ne_nil := hne
  chars c hc := by simp [isTermChar, ht c hc]

theorem ends_cons (hc : isTermChar c = false) : Ends (c :: t) := by
  intro d hd
  cases hd
  exact hc

theorem takeWhile_term (ha : a.IsTerm) (hu : Ends u) : (a ++ u).takeWhile isTermChar = a := by
  rw [List.takeWhile_append_of_pos ha.chars]
  cases u with
  | nil => simp
  | cons c u => simp [hu c rfl]

/-- A term and its end are told from the text. -/
theorem term_append_inj (ha : a.IsTerm) (hb : b.IsTerm) (hu : Ends u) (hv : Ends v)
    (h : a ++ u = b ++ v) : a = b ∧ u = v := by
  have hab : a = b := by
    rw [← takeWhile_term ha hu, h, takeWhile_term hb hv]
  subst hab
  exact ⟨rfl, List.append_cancel_left h⟩

theorem Opens.ends (h : Opens words t) : Ends t := by
  rcases h with rfl | ⟨w, _, u, rfl⟩
  · simp [Ends]
  · exact ends_cons (by decide)

theorem Follows.ends (h : Follows words t) : Ends t := by
  rcases h with ⟨u, rfl⟩ | h
  · exact ends_cons (by decide)
  · exact h.ends

/-- A clause does not begin with a word that is apart from its own. -/
theorem Opens.not_begins (h : Opens words t) (hw : isApart word words = true) :
    ¬ (' ' :: word) <+: t := by
  intro hp
  rcases h with rfl | ⟨w, hm, hpw⟩
  · simp at hp
  · have hnot := List.all_eq_true.mp hw w hm
    simp only [Bool.and_eq_true, Bool.not_eq_true', ← Bool.not_eq_true,
      List.isPrefixOf_iff_prefix] at hnot
    rcases List.prefix_or_prefix_of_prefix hp hpw with hc | hc
    · exact hnot.2 (List.cons_prefix_cons.mp hc).2
    · exact hnot.1 (List.cons_prefix_cons.mp hc).2

theorem Opens.ne_comma (h : Opens words t) : ∀ u, t ≠ ',' :: u := by
  rintro u rfl
  rcases h with h | ⟨w, _, v, h⟩
  · cases h
  · cases h

end Terms

section Lists

variable {α β : Type} {P : α → Prop} {f : α → Text} {g : α → β} {words : List Text}

/-- Where the entries of lists are told from the text, so are the lists. -/
theorem commaList_append_inj
    (hinj : ∀ a b u v, P a → P b → Follows words u → Follows words v → f a ++ u = f b ++ v →
      g a = g b ∧ u = v)
    {xs ys : List α} {u v : Text} (hxs : xs ≠ []) (hys : ys ≠ []) (hx : ∀ x ∈ xs, P x)
    (hy : ∀ y ∈ ys, P y) (hu : Opens words u) (hv : Opens words v)
    (h : commaList (xs.map f) ++ u = commaList (ys.map f) ++ v) :
    xs.map g = ys.map g ∧ u = v := by
  induction xs generalizing ys with
  | nil => exact absurd rfl hxs
  | cons x xs ih =>
    obtain ⟨hpx, hx⟩ := List.forall_mem_cons.mp hx
    cases ys with
    | nil => exact absurd rfl hys
    | cons y ys =>
      obtain ⟨hpy, hy⟩ := List.forall_mem_cons.mp hy
      cases xs with
      | nil =>
        cases ys with
        | nil =>
          simp only [List.map_cons, List.map_nil, commaList_singleton] at h
          obtain ⟨hg, huv⟩ := hinj x y u v hpx hpy (.inr hu) (.inr hv) h
          exact ⟨by simp [hg], huv⟩
        | cons z zs =>
          simp only [List.map_cons, List.map_nil, commaList_singleton, commaList_cons_cons,
            List.append_assoc, List.cons_append] at h
          obtain ⟨_, huv⟩ := hinj x y u _ hpx hpy (.inr hu) (.inl ⟨_, rfl⟩) h
          exact absurd huv (hu.ne_comma _)
      | cons w ws =>
        cases ys with
        | nil =>
          simp only [List.map_cons, List.map_nil, commaList_singleton, commaList_cons_cons,
            List.append_assoc, List.cons_append] at h
          obtain ⟨_, huv⟩ := hinj x y _ v hpx hpy (.inl ⟨_, rfl⟩) (.inr hv) h
          exact absurd huv.symm (hv.ne_comma _)
        | cons z zs =>
          simp only [List.map_cons, commaList_cons_cons, List.append_assoc,
            List.cons_append] at h
          obtain ⟨hg, hrest⟩ := hinj x y _ _ hpx hpy (.inl ⟨_, rfl⟩) (.inl ⟨_, rfl⟩) h
          simp only [List.cons.injEq, true_and] at hrest
          obtain ⟨hgs, huv⟩ := ih (by simp) (by simp) hx hy hrest
          exact ⟨congrArg₂ List.cons hg hgs, huv⟩

end Lists

theorem ofNat_inj {m n : Nat} (h : ofNat m = ofNat n) : m = n := by
  have hm := Nat.ofDigitChars_toDigits (b := 10) (n := m) (by omega) (by omega)
  have hn := Nat.ofDigitChars_toDigits (b := 10) (n := n) (by omega) (by omega)
  rw [← hm, ← hn]
  exact congrArg (Nat.ofDigitChars 10 · 0) h

theorem ofNat_isTerm (n : Nat) : (ofNat n).IsTerm :=
  .of_name Nat.toDigits_ne_nil (ofNat_isName n)

end Text

namespace Statement

open Text

variable {word u v : Text} {words : List Text}

theorem opens_listClause {entries : List Text} (hu : Opens words u) :
    Opens (word :: words) (listClause (' ' :: word) entries ++ u) := by
  unfold listClause
  split
  · exact hu.imp_right fun ⟨w, hm, hp⟩ => ⟨w, List.mem_cons_of_mem _ hm, hp⟩
  · exact .inr ⟨word, List.mem_cons_self, by simp⟩

theorem opens_numberClause {n : Option Nat} (hu : Opens words u) :
    Opens (word :: words) (numberClause (' ' :: word) n ++ u) := by
  unfold numberClause
  split
  · exact .inr ⟨word, List.mem_cons_self, by simp⟩
  · exact hu.imp_right fun ⟨w, hm, hp⟩ => ⟨w, List.mem_cons_of_mem _ hm, hp⟩

/-- A clause with a number, or its absence, is told from the text. -/
theorem numberClause_append_inj {m n : Option Nat} (hu : Opens words u) (hv : Opens words v)
    (hw : isApart word words = true)
    (h : numberClause (' ' :: word) m ++ u = numberClause (' ' :: word) n ++ v) :
    m = n ∧ u = v := by
  cases m with
  | none =>
    cases n with
    | none => exact ⟨rfl, h⟩
    | some n =>
      refine absurd ?_ (hu.not_begins hw)
      rw [show u = numberClause (' ' :: word) (some n) ++ v from h, numberClause]
      simp
  | some m =>
    cases n with
    | none =>
      refine absurd ?_ (hv.not_begins hw)
      rw [show v = numberClause (' ' :: word) (some m) ++ u from h.symm, numberClause]
      simp
    | some n =>
      simp only [numberClause, List.append_assoc] at h
      obtain ⟨hmn, huv⟩ := term_append_inj (ofNat_isTerm m) (ofNat_isTerm n) hu.ends hv.ends
        (List.append_cancel_left h)
      exact ⟨congrArg some (ofNat_inj hmn), huv⟩

/-- A clause with a list, or its absence, is told from the text. -/
theorem listClause_append_inj {α : Type} {P : α → Prop} {f : α → Text}
    (hinj : ∀ a b u v, P a → P b → Follows words u → Follows words v → f a ++ u = f b ++ v →
      a = b ∧ u = v)
    {xs ys : List α} (hx : ∀ x ∈ xs, P x) (hy : ∀ y ∈ ys, P y) (hu : Opens words u)
    (hv : Opens words v) (hw : isApart word words = true)
    (h : listClause (' ' :: word) (xs.map f) ++ u = listClause (' ' :: word) (ys.map f) ++ v) :
    xs = ys ∧ u = v := by
  cases xs with
  | nil =>
    cases ys with
    | nil => exact ⟨rfl, h⟩
    | cons y ys =>
      refine absurd ?_ (hu.not_begins hw)
      rw [show u = listClause (' ' :: word) ((y :: ys).map f) ++ v from h, listClause]
      simp
  | cons x xs =>
    cases ys with
    | nil =>
      refine absurd ?_ (hv.not_begins hw)
      rw [show v = listClause (' ' :: word) ((x :: xs).map f) ++ u from h.symm, listClause]
      simp
    | cons y ys =>
      simp only [listClause, List.map_cons, List.isEmpty_cons, Bool.false_eq_true, if_false,
        List.append_assoc] at h
      have hlist := commaList_append_inj (g := id) hinj (by simp) (by simp) hx hy hu hv
        (List.append_cancel_left h)
      simpa using hlist

end Statement

section Columns

open Text

/-- A column whose function goes by its name in SQL. There `sum` and `SUM` are one function. -/
def Column.named : Column → Column
  | .aggregate a => .aggregate { a with function := .other a.function.sql }
  | c => c

def Operand.IsNamed : Operand → Prop
  | .rows => True
  | .field name => name ≠ [] ∧ name.IsName

def Column.IsNamed : Column → Prop
  | .all => True
  | .field name => name ≠ [] ∧ name.IsName
  | .aggregate a => a.function.sql.IsTerm ∧ a.aliasName.IsTerm ∧ a.operand.IsNamed

theorem Text.isTerm_asterisk : IsTerm ['*'] where
  ne_nil := by simp
  chars := List.all_eq_true.mp (by decide)

/-- An asterisk is no name. -/
theorem Text.name_ne_asterisk {name : Text} (h : name.IsName) : ['*'] ≠ name := by
  rintro rfl
  exact absurd (h '*' List.mem_cons_self) (by decide)

theorem Operand.isTerm_text {o : Operand} (h : o.IsNamed) : o.text.IsTerm := by
  cases o with
  | rows => exact isTerm_asterisk
  | field name => exact .of_name h.1 h.2

theorem Operand.text_inj {o o' : Operand} (ho : o.IsNamed) (ho' : o'.IsNamed)
    (h : o.text = o'.text) : o = o' := by
  cases o with
  | rows =>
    cases o' with
    | rows => rfl
    | field name => exact absurd h (name_ne_asterisk ho'.2)
  | field name =>
    cases o' with
    | rows => exact absurd h.symm (name_ne_asterisk ho.2)
    | field name' => exact congrArg Operand.field h

variable {words : List Text} {u v : Text}

theorem Aggregate.sql_append (a : Aggregate) (u : Text) :
    a.sql ++ u = a.function.sql ++ '(' :: (a.operand.text ++ ')' ::
      (" AS ".toList ++ (a.aliasName ++ u))) := by
  simp [sql, sqlOver]

/-- An aggregate is told from the text, its function by name. -/
theorem Aggregate.sql_append_inj {a b : Aggregate} (ha : (Column.aggregate a).IsNamed)
    (hb : (Column.aggregate b).IsNamed) (hu : Follows words u) (hv : Follows words v)
    (h : a.sql ++ u = b.sql ++ v) :
    (Column.aggregate a).named = (Column.aggregate b).named ∧ u = v := by
  obtain ⟨hfa, haa, hoa⟩ := ha
  obtain ⟨hfb, hab, hob⟩ := hb
  rw [sql_append, sql_append] at h
  obtain ⟨hfunction, h⟩ := term_append_inj hfa hfb (ends_cons (by decide)) (ends_cons (by decide)) h
  obtain ⟨hoperand, h⟩ := term_append_inj (Operand.isTerm_text hoa) (Operand.isTerm_text hob)
    (ends_cons (by decide)) (ends_cons (by decide)) (List.cons.inj h).2
  obtain ⟨halias, huv⟩ := term_append_inj haa hab hu.ends hv.ends
    (List.append_cancel_left (List.cons.inj h).2)
  refine ⟨?_, huv⟩
  rw [Column.named, Column.named, hfunction, Operand.text_inj hoa hob hoperand, halias]

/-- A column that is no aggregate has no text but a term. -/
theorem Column.isTerm_sql {c : Column} (hc : c.IsNamed) (hp : ∀ a, c ≠ .aggregate a) :
    c.sql.IsTerm := by
  cases c with
  | all => exact isTerm_asterisk
  | field name => exact .of_name hc.1 hc.2
  | aggregate a => exact absurd rfl (hp a)

theorem Column.sql_append_inj_plain {c d : Column} (hc : c.IsNamed) (hd : d.IsNamed)
    (hpc : ∀ a, c ≠ .aggregate a) (hu : Follows words u) (hv : Follows words v)
    (h : c.sql ++ u = d.sql ++ v) : c.named = d.named ∧ u = v := by
  cases d with
  | aggregate b =>
    -- A parenthesis follows the function, and none follows a term.
    rw [show (Column.aggregate b).sql = b.sql from rfl, Aggregate.sql_append] at h
    obtain ⟨_, h⟩ := term_append_inj (isTerm_sql hc hpc) hd.1 hu.ends (ends_cons (by decide)) h
    rcases hu with ⟨t, rfl⟩ | rfl | ⟨w, _, t, rfl⟩
    all_goals cases h
  | all =>
    obtain ⟨ht, huv⟩ := term_append_inj (isTerm_sql hc hpc) isTerm_asterisk hu.ends hv.ends h
    cases c with
    | all => exact ⟨rfl, huv⟩
    | field name => exact absurd ht.symm (name_ne_asterisk hc.2)
    | aggregate a => exact absurd rfl (hpc a)
  | field name =>
    obtain ⟨ht, huv⟩ := term_append_inj (isTerm_sql hc hpc) (.of_name hd.1 hd.2) hu.ends hv.ends h
    cases c with
    | all => exact absurd ht (name_ne_asterisk hd.2)
    | field name' => exact ⟨congrArg Column.field ht, huv⟩
    | aggregate a => exact absurd rfl (hpc a)

/-- A column is told from the text, its function by name. -/
theorem Column.sql_append_inj (c d : Column) (u v : Text) (hc : c.IsNamed) (hd : d.IsNamed)
    (hu : Follows words u) (hv : Follows words v) (h : c.sql ++ u = d.sql ++ v) :
    c.named = d.named ∧ u = v := by
  cases c with
  | all => exact sql_append_inj_plain hc hd (by simp) hu hv h
  | field name => exact sql_append_inj_plain hc hd (by simp) hu hv h
  | aggregate a =>
    cases d with
    | aggregate b => exact Aggregate.sql_append_inj hc hd hu hv h
    | all =>
      obtain ⟨hn, huv⟩ := sql_append_inj_plain hd hc (by simp) hv hu h.symm
      exact ⟨hn.symm, huv.symm⟩
    | field name =>
      obtain ⟨hn, huv⟩ := sql_append_inj_plain hd hc (by simp) hv hu h.symm
      exact ⟨hn.symm, huv.symm⟩

end Columns

section Keys

open Text

structure SortKey.IsNamed (k : SortKey) : Prop where
  field : k.field.IsTerm
  direction : ∀ d ∈ k.direction, OrderBy.isDirection d = true

theorem OrderBy.isDirection_isTerm {d : Text} (h : isDirection d = true) : d.IsTerm := by
  refine .of_name ?_ (isDirection_isName h)
  rintro rfl
  exact absurd h (by decide)

/-- No direction begins as the clauses after it do. -/
theorem OrderBy.isDirection_head {c : Char} {d : Text} (h : isDirection (c :: d) = true) :
    c ≠ 'L' ∧ c ≠ 'O' := by
  have hlower : c.toLower = 'a' ∨ c.toLower = 'd' := by
    rw [isDirection, Bool.or_eq_true, beq_iff_eq, beq_iff_eq] at h
    exact h.imp (fun h => (List.cons.inj h).1) fun h => (List.cons.inj h).1
  constructor
  · rintro rfl
    exact absurd hlower (by decide)
  · rintro rfl
    exact absurd hlower (by decide)

def Statement.pagingWords : List Text :=
  ["LIMIT ".toList, "OFFSET ".toList]

theorem OrderBy.direction_not_follows {d u : Text} (h : isDirection d = true) :
    ¬ Follows Statement.pagingWords (' ' :: d ++ u) := by
  cases d with
  | nil => exact absurd h (by decide)
  | cons c d =>
    obtain ⟨hl, ho⟩ := isDirection_head h
    rintro (⟨t, ht⟩ | ht | ⟨w, hw, hp⟩)
    · cases ht
    · cases ht
    · have hp := (List.cons_prefix_cons.mp hp).2
      simp only [Statement.pagingWords, List.mem_cons, List.not_mem_nil, or_false] at hw
      rcases hw with rfl | rfl
      · exact hl (List.cons_prefix_cons.mp hp).1.symm
      · exact ho (List.cons_prefix_cons.mp hp).1.symm

/-- A key, with or without a direction, is told from the text. -/
theorem SortKey.sql_append_inj (j k : SortKey) (u v : Text) (hj : j.IsNamed) (hk : k.IsNamed)
    (hu : Follows Statement.pagingWords u) (hv : Follows Statement.pagingWords v)
    (h : j.sql ++ u = k.sql ++ v) : j = k ∧ u = v := by
  obtain ⟨field, direction⟩ := j
  obtain ⟨field', direction'⟩ := k
  obtain ⟨hf, hd⟩ := hj
  obtain ⟨hf', hd'⟩ := hk
  have hspace : ∀ t, Ends (' ' :: t) := fun t => ends_cons (by decide)
  cases direction with
  | none =>
    cases direction' with
    | none =>
      obtain ⟨rfl, huv⟩ := term_append_inj hf hf' hu.ends hv.ends h
      exact ⟨rfl, huv⟩
    | some d' =>
      simp only [sql, List.append_assoc] at h
      obtain ⟨_, hrest⟩ := term_append_inj hf hf' hu.ends (hspace _) h
      rw [hrest] at hu
      exact absurd hu (OrderBy.direction_not_follows (hd' d' rfl))
  | some d =>
    cases direction' with
    | none =>
      simp only [sql, List.append_assoc] at h
      obtain ⟨_, hrest⟩ := term_append_inj hf hf' (hspace _) hv.ends h
      rw [← hrest] at hv
      exact absurd hv (OrderBy.direction_not_follows (hd d rfl))
    | some d' =>
      simp only [sql, List.append_assoc, List.cons_append] at h
      obtain ⟨rfl, hrest⟩ := term_append_inj hf hf' (hspace _) (hspace _) h
      obtain ⟨rfl, huv⟩ := term_append_inj (OrderBy.isDirection_isTerm (hd d rfl))
        (OrderBy.isDirection_isTerm (hd' d' rfl)) hu.ends hv.ends (List.cons.inj hrest).2
      exact ⟨rfl, huv⟩

end Keys

section Filters

open Text

/-- A term does not begin as what stands between terms does. -/
theorem Text.term_append_ne_cons {a u v : Text} {c : Char} (ha : a.IsTerm)
    (hc : isTermChar c = false) : a ++ u ≠ c :: v := by
  intro h
  cases a with
  | nil => exact ha.ne_nil rfl
  | cons d a =>
    have hd := ha.chars d List.mem_cons_self
    rw [(List.cons.inj h).1, hc] at hd
    cases hd

theorem CompareOp.sql_append_inj {op op' : CompareOp} {u v : Text}
    (h : op.sql ++ ' ' :: u = op'.sql ++ ' ' :: v) : op = op' ∧ u = v := by
  cases op <;> cases op' <;> simp_all [sql]

theorem CompareOp.sql_append_ne_paren (op : CompareOp) (u v : Text) : op.sql ++ u ≠ '(' :: v := by
  cases op <;> simp [sql]

theorem LogicalOp.sql_append_inj {op op' : LogicalOp} {u v : Text}
    (h : op.sql ++ ' ' :: u = op'.sql ++ ' ' :: v) : op = op' ∧ u = v := by
  cases op <;> cases op' <;> simp_all [sql]

namespace Filter

open Fragment

/-- What stands between the parentheses that a filter has of its own or gets from a negation. -/
def body : Filter → Fragment
  | .logical op left right => left.fragment ++ .text (' ' :: op.sql ++ [' ']) :: right.fragment
  | e => e.fragment

theorem body_eq {e : Filter} (h : ∀ op l r, e ≠ .logical op l r) : e.body = e.fragment := by
  cases e with
  | logical op l r => exact absurd rfl (h op l r)
  | comparison field op value => rfl
  | not inner => rfl

theorem paramCount_outline (e : Filter) : e.outline.paramCount = e.paramCount := by
  induction e with
  | comparison field op value => rfl
  | logical op left right ihl ihr => rw [outline, paramCount, ihl, ihr, paramCount]
  | not inner ih => exact ih

theorem paramCount_of_outline {e e' : Filter} (h : e.outline = e'.outline) :
    e.paramCount = e'.paramCount := by
  rw [← paramCount_outline, h, paramCount_outline]

section Rendering

variable (style : PlaceholderStyle) (n : Nat) (rest : Fragment)

theorem render_comparison (field : Text) (op : CompareOp) (value : Value) :
    renderFrom style n ((comparison field op value).fragment ++ rest) =
      field ++ ' ' :: (op.sql ++ ' ' :: (style.placeholder n ++ renderFrom style (n + 1) rest)) := by
  simp [fragment, renderFrom]

theorem render_logical (op : LogicalOp) (l r : Filter) :
    renderFrom style n ((logical op l r).fragment ++ rest) =
      '(' :: renderFrom style n ((logical op l r).body ++ .text [')'] :: rest) := by
  simp [fragment, body, renderFrom]

theorem render_body_logical (op : LogicalOp) (l r : Filter) :
    renderFrom style n ((logical op l r).body ++ rest) =
      renderFrom style n (l.fragment ++ .text (' ' :: op.sql ++ [' ']) :: (r.fragment ++ rest)) := by
  simp [body]

theorem render_not (e : Filter) :
    renderFrom style n ((not e).fragment ++ rest) =
      "NOT".toList ++ ' ' :: '(' :: renderFrom style n (e.body ++ .text [')'] :: rest) := by
  cases e with
  | logical op l r => simp [fragment, body, renderFrom]
  | comparison field op value => simp [fragment, body, renderFrom]
  | not inner => simp [fragment, body, renderFrom]

end Rendering

def IsNamed (e : Filter) : Prop :=
  ∀ field ∈ e.fields, field.IsTerm

/-- A filter is told from the front of a text, but for its values, which are not in the text. What
stands after it is told too. -/
def Told (style : PlaceholderStyle) (e : Filter) : Prop :=
  ∀ (e' : Filter) (n : Nat) (rest rest' : Fragment), e'.IsNamed →
    renderFrom style n (e.fragment ++ rest) = renderFrom style n (e'.fragment ++ rest') →
    e.outline = e'.outline ∧
      renderFrom style (n + e.paramCount) rest = renderFrom style (n + e.paramCount) rest'

def BodyTold (style : PlaceholderStyle) (e : Filter) : Prop :=
  ∀ (e' : Filter) (n : Nat) (rest rest' : Fragment), e'.IsNamed →
    renderFrom style n (e.body ++ .text [')'] :: rest) =
      renderFrom style n (e'.body ++ .text [')'] :: rest') →
    e.outline = e'.outline ∧
      renderFrom style (n + e.paramCount) rest = renderFrom style (n + e.paramCount) rest'

variable {style : PlaceholderStyle}

theorem isTerm_not : IsTerm "NOT".toList where
  ne_nil := by simp
  chars := List.all_eq_true.mp (by decide)

theorem comparison_ne_logical {field u : Text} {op : LogicalOp} {l r : Filter} {n : Nat}
    {rest : Fragment} (hf : field.IsTerm) :
    field ++ ' ' :: u ≠ renderFrom style n ((logical op l r).fragment ++ rest) := by
  rw [render_logical]
  exact term_append_ne_cons hf (by decide)

theorem comparison_ne_not {field u : Text} {op : CompareOp} {e : Filter} {n : Nat}
    {rest : Fragment} (hf : field.IsTerm) :
    field ++ ' ' :: (op.sql ++ u) ≠ renderFrom style n ((not e).fragment ++ rest) := by
  rw [render_not]
  intro h
  have hspace : ∀ t, Ends (' ' :: t) := fun t => ends_cons (by decide)
  obtain ⟨_, hrest⟩ := term_append_inj hf isTerm_not (hspace _) (hspace _) h
  exact op.sql_append_ne_paren _ _ (List.cons.inj hrest).2

theorem logical_ne_not {op : LogicalOp} {l r e : Filter} {n : Nat} {rest rest' : Fragment} :
    renderFrom style n ((logical op l r).fragment ++ rest) ≠
      renderFrom style n ((not e).fragment ++ rest') := by
  rw [render_logical, render_not]
  exact (term_append_ne_cons isTerm_not (by decide)).symm

theorem told_comparison {field : Text} {op : CompareOp} {value : Value} (hf : field.IsTerm) :
    (comparison field op value).Told style := by
  intro e' n rest rest' hnamed h
  rw [render_comparison] at h
  cases e' with
  | comparison field' op' value' =>
    have hspace : ∀ t, Ends (' ' :: t) := fun t => ends_cons (by decide)
    rw [render_comparison] at h
    have hf' : field'.IsTerm := hnamed field' List.mem_cons_self
    obtain ⟨hfield, hop⟩ := term_append_inj hf hf' (hspace _) (hspace _) h
    obtain ⟨hop, hvalue⟩ := CompareOp.sql_append_inj (List.cons.inj hop).2
    -- Both placeholders have the same position, so they are spelled alike.
    exact ⟨by rw [outline, outline, hfield, hop], List.append_cancel_left hvalue⟩
  | logical op' l r => exact absurd h (comparison_ne_logical hf)
  | not inner => exact absurd h (comparison_ne_not hf)

theorem bodyTold_logical {op : LogicalOp} {l r : Filter} (hl : l.Told style) (hr : r.Told style) :
    (logical op l r).BodyTold style := by
  intro e' n rest rest' hnamed h
  rw [render_body_logical] at h
  by_cases he : ∃ op' l' r', e' = .logical op' l' r'
  · obtain ⟨op', l', r', rfl⟩ := he
    obtain ⟨hnl, hnr⟩ := List.forall_mem_append.mp hnamed
    rw [render_body_logical] at h
    obtain ⟨hleft, h⟩ := hl l' n _ _ hnl h
    simp only [renderFrom, List.cons_append, List.append_assoc, List.nil_append] at h
    obtain ⟨hop, h⟩ := LogicalOp.sql_append_inj (List.cons.inj h).2
    obtain ⟨hright, h⟩ := hr r' _ _ _ hnr h
    refine ⟨by rw [outline, outline, hleft, hop, hright], ?_⟩
    rw [paramCount, ← Nat.add_assoc]
    exact (List.cons.inj h).2
  · -- A connective would have to be a closing parenthesis.
    have hplain : ∀ op' l' r', e' ≠ .logical op' l' r' :=
      fun op' l' r' h => he ⟨op', l', r', h⟩
    rw [body_eq hplain] at h
    obtain ⟨_, h⟩ := hl e' n _ _ hnamed h
    cases h

theorem bodyTold_plain {e : Filter} (hp : ∀ op l r, e ≠ .logical op l r) (he : e.Told style) :
    e.BodyTold style := by
  intro e' n rest rest' hnamed h
  rw [body_eq hp] at h
  by_cases he' : ∃ op' l' r', e' = .logical op' l' r'
  · obtain ⟨op', l', r', rfl⟩ := he'
    obtain ⟨hnl, _⟩ := List.forall_mem_append.mp hnamed
    rw [render_body_logical] at h
    obtain ⟨_, h⟩ := he l' n _ _ hnl h
    cases h
  · have hplain : ∀ op' l' r', e' ≠ .logical op' l' r' :=
      fun op' l' r' h => he' ⟨op', l', r', h⟩
    rw [body_eq hplain] at h
    obtain ⟨ho, h⟩ := he e' n _ _ hnamed h
    exact ⟨ho, (List.cons.inj h).2⟩

theorem told_logical {op : LogicalOp} {l r : Filter} (hb : (logical op l r).BodyTold style) :
    (logical op l r).Told style := by
  intro e' n rest rest' hnamed h
  cases e' with
  | comparison field' op' value' =>
    rw [render_comparison] at h
    exact absurd h.symm (comparison_ne_logical (hnamed field' List.mem_cons_self))
  | logical op' l' r' =>
    rw [render_logical, render_logical] at h
    exact hb _ n _ _ hnamed (List.cons.inj h).2
  | not inner => exact absurd h logical_ne_not

theorem told_not {e : Filter} (hb : e.BodyTold style) : (not e).Told style := by
  intro e' n rest rest' hnamed h
  cases e' with
  | comparison field' op' value' =>
    rw [render_comparison] at h
    exact absurd h.symm (comparison_ne_not (hnamed field' List.mem_cons_self))
  | logical op' l' r' => exact absurd h.symm logical_ne_not
  | not inner =>
    rw [render_not, render_not] at h
    have h := (List.cons.inj (List.cons.inj (List.append_cancel_left h)).2).2
    obtain ⟨ho, h⟩ := hb inner n _ _ hnamed h
    exact ⟨congrArg Filter.not ho, h⟩

/-- Every filter is told from the text, by itself and in parentheses. -/
theorem told_and_bodyTold (e : Filter) (he : e.IsNamed) : e.Told style ∧ e.BodyTold style := by
  induction e with
  | comparison field op value =>
    have h : (comparison field op value).Told style := told_comparison (he field List.mem_cons_self)
    exact ⟨h, bodyTold_plain (by simp) h⟩
  | logical op l r ihl ihr =>
    obtain ⟨hnl, hnr⟩ := List.forall_mem_append.mp he
    have h : (logical op l r).BodyTold style := bodyTold_logical (ihl hnl).1 (ihr hnr).1
    exact ⟨told_logical h, h⟩
  | not inner ih =>
    have h := told_not (ih he).2
    exact ⟨h, bodyTold_plain (by simp) h⟩

/-- The outline and the values together are the filter. -/
theorem eq_of_outline {e e' : Filter} (ho : e.outline = e'.outline) (hv : e.values = e'.values) :
    e = e' := by
  induction e generalizing e' with
  | comparison field op value =>
    cases e' with
    | comparison field' op' value' =>
      cases ho
      cases hv
      rfl
    | logical op' l' r' => cases ho
    | not inner' => cases ho
  | logical op l r ihl ihr =>
    cases e' with
    | comparison field' op' value' => cases ho
    | logical op' l' r' =>
      simp only [outline, logical.injEq] at ho
      obtain ⟨rfl, hl, hr⟩ := ho
      have hlength : l.values.length = l'.values.length := by
        rw [length_values, length_values, paramCount_of_outline hl]
      obtain ⟨hvl, hvr⟩ := List.append_inj hv hlength
      rw [ihl hl hvl, ihr hr hvr]
    | not inner' => cases ho
  | not inner ih =>
    cases e' with
    | comparison field' op' value' => cases ho
    | logical op' l' r' => cases ho
    | not inner' =>
      simp only [outline, not.injEq] at ho
      rw [ih ho hv]

end Filter

end Filters

end RequestSql
