import RequestSql.Proofs.Lexemes

namespace RequestSql

namespace Text

section Offsets

theorem byteSize_append (u v : Text) : byteSize (u ++ v) = byteSize u + byteSize v := by
  induction u with
  | nil => rw [List.nil_append, byteSize, Nat.zero_add]
  | cons c u ih => rw [List.cons_append, byteSize, byteSize, ih, Nat.add_assoc]

theorem byteSize_pos {t : Text} (h : t ≠ []) : 0 < byteSize t := by
  obtain ⟨c, t, rfl⟩ := List.exists_cons_of_ne_nil h
  have hc := c.utf8Size_pos
  rw [byteSize]
  omega

/-- What stands before and after a byte offset. There is nothing to cut where the offset is past the
end or inside a character. -/
def cutAt? : Text → Nat → Option (Text × Text)
  | t, 0 => some ([], t)
  | [], _ + 1 => none
  | c :: t, n + 1 =>
    if c.utf8Size ≤ n + 1 then
      (cutAt? t (n + 1 - c.utf8Size)).map fun (before, after) => (c :: before, after)
    else none

def slice? (t : Text) (start stop : Nat) : Option Text :=
  if start ≤ stop then do
    let (_, after) ← t.cutAt? start
    let (piece, _) ← after.cutAt? (stop - start)
    some piece
  else none

theorem cutAt?_append (u v : Text) : (u ++ v).cutAt? (byteSize u) = some (u, v) := by
  induction u with
  | nil => rw [List.nil_append, byteSize, cutAt?]
  | cons c u ih =>
    obtain ⟨n, hn⟩ := Nat.exists_eq_add_one.mpr (byteSize_pos (List.cons_ne_nil c u))
    have hsize : n + 1 - c.utf8Size = byteSize u := by
      rw [byteSize] at hn
      omega
    have hle : c.utf8Size ≤ n + 1 := by
      rw [← hn, byteSize]
      omega
    rw [hn, List.cons_append, cutAt?, if_pos hle, hsize, ih]
    rfl

/-- Fronts of a text with the same number of bytes are the same. -/
theorem append_inj_of_byteSize {a b u v : Text} (h : a ++ b = u ++ v)
    (hsize : byteSize a = byteSize u) : a = u ∧ b = v := by
  have hcut := cutAt?_append a b
  rw [h, hsize, cutAt?_append] at hcut
  exact Prod.mk.inj (Option.some.inj hcut.symm)

theorem slice?_append (u w v : Text) :
    (u ++ w ++ v).slice? (byteSize u) (byteSize (u ++ w)) = some w := by
  have hsize : byteSize (u ++ w) - byteSize u = byteSize w := by
    rw [byteSize_append]
    omega
  rw [slice?, if_pos (by rw [byteSize_append]; omega), List.append_assoc, cutAt?_append, hsize]
  simp only [Option.bind_eq_bind, Option.bind_some, cutAt?_append]

end Offsets

end Text

namespace Lexer

open Text (isBlank)

section Tiles

inductive Tiled : Nat → Text → List Token → Prop where
  | blank {offset gap} (white : Text.isAllBlank gap = true) : Tiled offset gap []
  | token {offset gap w kind rest ts} (white : Text.isAllBlank gap = true)
      (scanned : Scanned w kind rest) (more : Tiled (offset + Text.byteSize (gap ++ w)) rest ts) :
      Tiled offset (gap ++ w ++ rest)
        (⟨kind, ⟨offset + Text.byteSize gap, offset + Text.byteSize (gap ++ w)⟩⟩ :: ts)

/-- The characters of a token already scanned are passed over. -/
theorem tokensFrom_skip (offset : Nat) (w rest : Text) :
    tokensFrom offset w.length (w ++ rest) = tokensFrom (offset + Text.byteSize w) 0 rest := by
  induction w generalizing offset with
  | nil => rfl
  | cons c w ih =>
    rw [List.cons_append, List.length_cons, tokensFrom, ih, Text.byteSize, Nat.add_assoc]

theorem tokensFrom_blank {offset : Nat} {gap : Text} (h : Text.isAllBlank gap = true) (t : Text) :
    tokensFrom offset 0 (gap ++ t) = tokensFrom (offset + Text.byteSize gap) 0 t := by
  induction gap generalizing offset with
  | nil => rfl
  | cons c gap ih =>
    rw [Text.isAllBlank, List.all_cons, Bool.and_eq_true] at h
    rw [List.cons_append, tokensFrom, if_pos h.1, ih h.2, Text.byteSize, Nat.add_assoc]

theorem Scans.tokensFrom_eq {w rest : Text} {kind : TokenKind} (h : Scans w kind rest)
    (offset : Nat) : tokensFrom offset 0 (w ++ rest) =
      ⟨kind, ⟨offset, offset + Text.byteSize w⟩⟩ ::
        tokensFrom (offset + Text.byteSize w) 0 rest := by
  obtain ⟨c, tail, rfl, hblank, hs⟩ := h
  rw [List.cons_append, tokensFrom, if_neg (by simp [hblank]), hs]
  dsimp only
  rw [tokensFrom_skip, List.take_left, Text.byteSize, Nat.add_assoc]

/-- The lexer tiles every text. -/
theorem tiled_tokensFrom (offset : Nat) (t : Text) : Tiled offset t (tokensFrom offset 0 t) := by
  -- by the length of the text, since a step passes over white space and a whole token
  induction hn : t.length using Nat.strongRecOn generalizing offset t with
  | ind n ih =>
    have hgap : Text.isAllBlank (t.takeWhile isBlank) = true := List.all_takeWhile
    have ht : t = t.takeWhile isBlank ++ t.dropWhile isBlank :=
      List.takeWhile_append_dropWhile.symm
    rw [ht, tokensFrom_blank hgap]
    cases hrest : t.dropWhile isBlank with
    | nil =>
      rw [List.append_nil]
      exact .blank hgap
    | cons c u =>
      have hblank : isBlank c = false := by
        have := List.head?_dropWhile_not isBlank t
        rw [hrest] at this
        simpa using this
      obtain ⟨w, kind, rest, hw, _, hscanned⟩ := scan_scanned hblank u
      have hlen : rest.length < n := by
        have hshort := List.length_dropWhile_le isBlank t
        have hlong := List.length_pos_iff.mpr hscanned.ne_nil
        have hsum := congrArg List.length hw
        rw [← hrest, List.length_append] at hsum
        omega
      rw [hw, hscanned.scans.tokensFrom_eq, ← List.append_assoc, Nat.add_assoc,
        ← Text.byteSize_append]
      exact .token hgap hscanned (ih _ hlen _ _ rfl)

/-- What is scanned at the front of a text is determined by the text. -/
theorem Scans.unique {w w' rest rest' : Text} {kind kind' : TokenKind} (h : Scans w kind rest)
    (h' : Scans w' kind' rest') (ht : w ++ rest = w' ++ rest') : w = w' ∧ kind = kind' := by
  obtain ⟨c, tail, rfl, _, hs⟩ := h
  obtain ⟨c', tail', rfl, _, hs'⟩ := h'
  rw [List.cons_append, List.cons_append] at ht
  obtain ⟨rfl, htail⟩ := List.cons.inj ht
  rw [← htail, hs] at hs'
  obtain ⟨hkind, hlength⟩ := Prod.mk.inj hs'
  rw [(List.append_inj htail hlength).1]
  exact ⟨rfl, hkind⟩

/-- Every token is cut out of the text at its place. -/
theorem Tiled.cut {offset : Nat} {t : Text} {ts : List Token} (h : Tiled offset t ts)
    {token : Token} (hm : token ∈ ts) : ∃ u w v, t = u ++ w ++ v ∧
      token.span = ⟨offset + Text.byteSize u, offset + Text.byteSize (u ++ w)⟩ ∧
      Scanned w token.kind v := by
  induction h with
  | blank _ => cases hm
  | @token offset gap w kind rest ts _ scanned _ ih =>
    rcases List.mem_cons.mp hm with rfl | hm
    · exact ⟨gap, w, rest, rfl, rfl, scanned⟩
    · obtain ⟨u, x, v, rfl, hspan, hx⟩ := ih hm
      refine ⟨gap ++ w ++ u, x, v, ?_, ?_, hx⟩
      · simp only [List.append_assoc]
      · rw [hspan]
        simp only [Text.byteSize_append, Nat.add_assoc]

/-- The token that begins at a place is the one that is scanned there. -/
theorem Tiled.token_at {offset : Nat} {before w rest : Text} {ts : List Token} {kind : TokenKind}
    (h : Tiled offset (before ++ w ++ rest) ts) (hw : Scans w kind rest) {token : Token}
    (hm : token ∈ ts) (hstart : token.span.start = offset + Text.byteSize before) :
    token = ⟨kind, ⟨offset + Text.byteSize before, offset + Text.byteSize (before ++ w)⟩⟩ := by
  obtain ⟨u, x, v, ht, hspan, hx⟩ := h.cut hm
  rw [hspan] at hstart
  rw [List.append_assoc, List.append_assoc] at ht
  obtain ⟨rfl, hrest⟩ := Text.append_inj_of_byteSize ht (Nat.add_left_cancel hstart).symm
  obtain ⟨rfl, rfl⟩ := hw.unique hx.scans hrest
  rw [← hspan]

theorem tokens_ne_eof {t : Text} {token : Token} (h : token ∈ tokens t) : token.kind ≠ .eof := by
  obtain ⟨_, _, _, _, _, hscanned⟩ := (tiled_tokensFrom 0 t).cut h
  exact hscanned.ne_eof

/-- The bytes of a token lie within the text that it is a token of. -/
theorem Tiled.bounds {offset : Nat} {t : Text} {ts : List Token} (h : Tiled offset t ts)
    {token : Token} (hm : token ∈ ts) : offset ≤ token.span.start ∧
      token.span.start < token.span.stop ∧ token.span.stop ≤ offset + Text.byteSize t := by
  obtain ⟨u, w, v, rfl, hspan, hw⟩ := h.cut hm
  have hpos := Text.byteSize_pos hw.ne_nil
  rw [hspan]
  simp only [Text.byteSize_append]
  omega

/-- A token begins where the one before it has ended, or later. -/
theorem Tiled.ordered {offset : Nat} {t : Text} {ts : List Token} (h : Tiled offset t ts) :
    ts.Pairwise fun a b => a.span.stop ≤ b.span.start := by
  induction h with
  | blank _ => exact .nil
  | token _ _ more ih => exact .cons (fun b hb => (more.bounds hb).1) ih

def Gap (t : Text) (a b : Span) : Prop :=
  ∃ gap, t.slice? a.stop b.start = some gap ∧ Text.isAllBlank gap = true

theorem gap_append {before gap : Text} (h : Text.isAllBlank gap = true) (after : Text) {a b : Span}
    (ha : a.stop = Text.byteSize before) (hb : b.start = Text.byteSize (before ++ gap)) :
    Gap (before ++ gap ++ after) a b := by
  refine ⟨gap, ?_, h⟩
  rw [ha, hb, Text.slice?_append]

/-- There is white space before, between and after the tokens. -/
theorem Tiled.gaps {offset : Nat} {t : Text} {ts : List Token} (h : Tiled offset t ts)
    (before : Text) (hb : offset = Text.byteSize before) {a b : Span} (ha : a.stop = offset)
    (hend : b.start = Text.byteSize (before ++ t)) :
    List.IsChain (Gap (before ++ t)) (a :: (ts.map Token.span ++ [b])) := by
  induction h generalizing before a with
  | @blank offset gap white =>
    have hgap := gap_append white [] (ha.trans hb) hend
    rw [List.append_nil] at hgap
    exact .cons_cons hgap (.singleton b)
  | @token offset gap w kind rest ts white scanned _ ih =>
    have hoffset : offset + Text.byteSize (gap ++ w) = Text.byteSize (before ++ (gap ++ w)) := by
      rw [Text.byteSize_append before, hb]
    have hchain := ih _ hoffset (a := ⟨offset + Text.byteSize gap, _⟩) rfl
      (by rw [hend]; simp only [List.append_assoc])
    have hgap := gap_append (b := ⟨offset + Text.byteSize gap, offset + Text.byteSize (gap ++ w)⟩)
      white (w ++ rest) (ha.trans hb) (by rw [Text.byteSize_append before, hb])
    simp only [List.append_assoc] at hchain hgap ⊢
    exact .cons_cons hgap hchain

end Tiles

/-- Tokens that tile a text. A slice exists only between character boundaries of the text, so every
token begins and ends at one. -/
structure Tiling (t : Text) (ts : List Token) : Prop where
  finish : ∃ us, ts = us ++ [⟨.eof, ⟨Text.byteSize t, Text.byteSize t⟩⟩] ∧
    ∀ token ∈ us, token.kind ≠ .eof ∧ token.span.start < token.span.stop
  ordered : ts.Pairwise fun a b => a.span.start < b.span.start ∧ a.span.stop ≤ b.span.start
  lexemes : ∀ token ∈ ts, ∃ w, t.slice? token.span.start token.span.stop = some w ∧
    IsLexeme token.kind w
  gaps : List.IsChain (Gap t) (⟨0, 0⟩ :: ts.map Token.span)

theorem tiling_tokenize (t : Text) : Tiling t (tokenize t) := by
  have h := tiled_tokensFrom 0 t
  refine ⟨⟨tokens t, rfl, ?_⟩, ?_, ?_, ?_⟩
  · intro token hm
    exact ⟨tokens_ne_eof hm, (h.bounds hm).2.1⟩
  · refine List.pairwise_append.mpr ⟨?_, List.pairwise_singleton _ _, ?_⟩
    · refine h.ordered.imp_of_mem ?_
      intro a b ha _ hab
      exact ⟨by have := h.bounds ha; omega, hab⟩
    · intro a ha b hb
      obtain rfl := List.mem_singleton.mp hb
      have hbounds := h.bounds ha
      simp only [endToken]
      omega
  · intro token hm
    rcases List.mem_append.mp hm with hm | hm
    · obtain ⟨u, w, v, rfl, hspan, hscanned⟩ := h.cut hm
      refine ⟨w, ?_, hscanned.isLexeme⟩
      rw [hspan, Nat.zero_add, Nat.zero_add, Text.slice?_append]
    · obtain rfl := List.mem_singleton.mp hm
      have hslice := Text.slice?_append t [] []
      rw [List.append_nil, List.append_nil] at hslice
      exact ⟨[], hslice, rfl⟩
  · have hgaps := h.gaps [] (a := ⟨0, 0⟩) (b := (endToken t).span) rfl rfl rfl
    rw [tokenize, List.map_append]
    exact hgaps

end Lexer

end RequestSql
