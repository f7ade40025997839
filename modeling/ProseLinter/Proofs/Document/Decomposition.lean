import ProseLinter.Proofs.LineMap.Position

/-!
# Proofs/Document/Decomposition — the nodes of a text lose none of it

A document is one node for the whole text and one for each line.  `nodes_decompose` says what the
line nodes are to the text: each one *is* the slice of the text at its range, they follow each other
without overlap, and what stands between two of them is a line break and nothing else.

The nodes come from `Document.lines`, which drops an empty last row, and the positions from the line
map, which keeps it (`rows_eq_lines`).  Both number the rows from the front, so a node shows the row
of its number (`exists_showsRow`), and the two agree wherever there is a node.
-/

namespace ProseLinter

namespace Document

open LineMap

/-! ## Slices of a text -/

/-- The characters of a text from one offset up to another one. -/
def slice (text : List Char) (start stop : ℤ) : List Char :=
  (text.take stop.toNat).drop start.toNat

/-- Slices that meet join. -/
theorem slice_append (text : List Char) {a b c : ℤ} (hab : a ≤ b) (hbc : b ≤ c) :
    slice text a b ++ slice text b c = slice text a c := by
  have hb : text.take b.toNat = (text.take c.toNat).take b.toNat := by
    rw [List.take_take, Nat.min_eq_left (Int.toNat_le_toNat hbc)]
  have hd : (text.take c.toNat).drop b.toNat
      = ((text.take c.toNat).drop a.toNat).drop (b.toNat - a.toNat) := by
    rw [List.drop_drop, Nat.add_sub_cancel' (Int.toNat_le_toNat hab)]
  rw [slice, slice, slice, hb, hd, List.drop_take, List.take_append_drop]

@[simp] theorem slice_zero_length (text : List Char) : slice text 0 text.length = text := by
  simp [slice]

/-- A piece of the text, told by what stands before it.  The line feed at the end lets the last row
of a text be cut out like any other. -/
theorem slice_eq_of_append {text before piece after : List Char}
    (h : text ++ ['\n'] = before ++ piece ++ after)
    (hlen : before.length + piece.length ≤ text.length) :
    slice text before.length (before.length + piece.length) = piece := by
  have htake : text.take (before.length + piece.length) = before ++ piece := by
    rw [← List.length_append] at hlen ⊢
    rw [← List.take_append_of_le_length hlen, h, List.take_left]
  rw [slice, Int.toNat_natCast, ← Int.natCast_add, Int.toNat_natCast, htake, List.drop_left]

/-! ## Rows and lines -/

/-- A text is cut at each of its rows, a line feed put at its end. -/
theorem exists_append_row {text r : List Char} {k : ℕ} (h : (rows text)[k]? = some r) :
    ∃ before after, text ++ ['\n'] = before ++ (r ++ '\n' :: after) ∧
      before.length = extent ((rows text).take k) := by
  obtain ⟨hk, hr⟩ := List.getElem?_eq_some_iff.mp h
  refine ⟨((rows text).take k).flatMap (· ++ ['\n']),
    ((rows text).drop (k + 1)).flatMap (· ++ ['\n']), ?_, length_flatMap_feed _⟩
  rw [terminated_eq_flatMap]
  conv_lhs => rw [← List.take_append_drop k (rows text), List.drop_eq_getElem_cons hk, hr]
  simp

/-- The lines are the rows, without the last one if it is empty. -/
theorem rows_eq_lines (text : List Char) :
    rows text = lines text ∨ rows text = lines text ++ [[]] := by
  by_cases h : (rows text).getLast? = some []
  · have hl : lines text = (rows text).dropLast := if_pos h
    exact Or.inr (by rw [hl, List.dropLast_append_getLast? [] h])
  · exact Or.inl (if_neg h).symm

theorem getElem?_rows_of_lines {text line : List Char} {k : ℕ} (h : (lines text)[k]? = some line) :
    (rows text)[k]? = some line := by
  rcases rows_eq_lines text with hr | hr <;> rw [hr]
  · exact h
  · rw [List.getElem?_append_left (List.getElem?_eq_some_iff.mp h).1, h]

/-- Up to any line, the lines are the rows. -/
theorem take_lines {text : List Char} {k : ℕ} (hk : k ≤ (lines text).length) :
    (lines text).take k = (rows text).take k := by
  rcases rows_eq_lines text with hr | hr <;> rw [hr]
  rw [List.take_append_of_le_length hk]

/-- A line is what is left of it without a carriage return, and possibly that carriage return. -/
theorem exists_withoutReturn_append (line : List Char) :
    ∃ ret, (ret = [] ∨ ret = ['\r']) ∧ line = withoutReturn line ++ ret := by
  unfold withoutReturn
  split
  · rename_i h
    exact ⟨['\r'], Or.inr rfl, (List.dropLast_append_getLast? '\r' h).symm⟩
  · exact ⟨[], Or.inl rfl, (List.append_nil line).symm⟩

/-! ## The line nodes -/

theorem getElem?_lineNodes : ∀ (start number : ℕ) (ls : List (List Char)) (k : ℕ),
    (lineNodes start number ls)[k]? = ls[k]?.map fun line =>
      ⟨lineKind, (start + extent (ls.take k) : ℕ),
        (start + extent (ls.take k) : ℕ) + (withoutReturn line).length, withoutReturn line,
        (number + k : ℕ)⟩
  | _, _, [], _ => by simp [lineNodes]
  | _, _, _ :: _, 0 => by simp [lineNodes]
  | start, number, l :: ls, k + 1 => by
      have h₁ : ∀ e, start + l.length + 1 + e = start + (l.length + 1 + e) := fun e => by omega
      have h₂ : number + 1 + k = number + (k + 1) := by omega
      rw [lineNodes, List.getElem?_cons_succ, List.getElem?_cons_succ, List.take_succ_cons,
        extent_cons, getElem?_lineNodes (start + l.length + 1) (number + 1) ls k, h₁, h₂]

/-- **Line `k` of a text as a node**, the lines counted from zero. -/
structure IsLine (text : List Char) (k : ℕ) (n : TextNode) : Prop where
  kind_eq : n.kind = lineKind
  range_le : 0 ≤ n.start ∧ n.start ≤ n.stop ∧ n.stop ≤ text.length
  raw_eq : n.raw = slice text n.start n.stop
  feed_not_mem : '\n' ∉ n.raw
  line_eq : n.line = k + 1
  position_eq : position text n.start = ⟨k + 1, 1⟩

/-- **A node shows row `k`** of a text: all of it but a carriage return `ret` at its end. -/
structure ShowsRow (text : List Char) (k : ℕ) (n : TextNode) (ret : List Char) : Prop where
  row : (rows text)[k]? = some (n.raw ++ ret)
  ret_eq : ret = [] ∨ ret = ['\r']
  kind_eq : n.kind = lineKind
  line_eq : n.line = k + 1
  start_eq : n.start = extent ((rows text).take k)
  stop_eq : n.stop = n.start + n.raw.length

/-- The line nodes show the rows, in order. -/
theorem exists_showsRow {text : List Char} {k : ℕ} {n : TextNode}
    (h : (lineNodes 0 1 (lines text))[k]? = some n) : ∃ ret, ShowsRow text k n ret := by
  rw [getElem?_lineNodes, Option.map_eq_some_iff] at h
  obtain ⟨line, hline, rfl⟩ := h
  obtain ⟨ret, hret, heq⟩ := exists_withoutReturn_append line
  have hk : k ≤ (lines text).length := (List.getElem?_eq_some_iff.mp hline).1.le
  exact ⟨ret, heq ▸ getElem?_rows_of_lines hline, hret, rfl, by simp only; omega,
    by simp only [take_lines hk, Nat.zero_add], rfl⟩

namespace ShowsRow

variable {text ret : List Char} {k : ℕ} {n : TextNode}

/-- The row ends, carriage return and all, before the text does or with it. -/
theorem stop_add_le (h : ShowsRow text k n ret) : n.stop + ret.length ≤ text.length := by
  have := extent_take_add_length_le h.row
  rw [List.length_append] at this
  rw [h.stop_eq, h.start_eq]
  omega

theorem range_le (h : ShowsRow text k n ret) :
    0 ≤ n.start ∧ n.start ≤ n.stop ∧ n.stop ≤ text.length := by
  have := h.stop_add_le
  have := h.stop_eq
  have := h.start_eq
  omega

/-- The next row starts after the line feed that ends this one. -/
theorem extent_take_succ (h : ShowsRow text k n ret) :
    (extent ((rows text).take (k + 1)) : ℤ) = n.stop + ret.length + 1 := by
  rw [LineMap.extent_take_succ h.row, h.stop_eq, h.start_eq, List.length_append]
  omega

theorem raw_eq (h : ShowsRow text k n ret) : n.raw = slice text n.start n.stop := by
  obtain ⟨before, after, happ, hlen⟩ := exists_append_row h.row
  have hsplit : text ++ ['\n'] = before ++ n.raw ++ (ret ++ '\n' :: after) := by simpa using happ
  have := h.range_le
  rw [h.stop_eq, h.start_eq, ← hlen] at this ⊢
  exact (slice_eq_of_append hsplit (by omega)).symm

/-- What follows the node in its row and, as far as the text goes, after the row. -/
theorem slice_stop (h : ShowsRow text k n ret) {feed : List Char}
    (hfeed : feed = [] ∨ feed = ['\n']) (hle : n.stop + ret.length + feed.length ≤ text.length) :
    slice text n.stop (n.stop + ret.length + feed.length) = ret ++ feed := by
  obtain ⟨before, after, happ, hlen⟩ := exists_append_row h.row
  have hstop : n.stop = ((before ++ n.raw).length : ℕ) := by
    rw [h.stop_eq, h.start_eq, ← hlen, List.length_append, Int.natCast_add]
  have hsplit : ∃ rest, text ++ ['\n'] = (before ++ n.raw) ++ (ret ++ feed) ++ rest := by
    rcases hfeed with rfl | rfl
    · exact ⟨'\n' :: after, by simpa using happ⟩
    · exact ⟨after, by simpa using happ⟩
  obtain ⟨rest, hrest⟩ := hsplit
  rw [hstop] at hle ⊢
  have hlen' : (ret ++ feed).length = ret.length + feed.length := List.length_append
  rw [Int.add_assoc, ← Int.natCast_add, ← hlen']
  exact slice_eq_of_append hrest (by omega)

theorem isLine (h : ShowsRow text k n ret) : IsLine text k n where
  kind_eq := h.kind_eq
  range_le := h.range_le
  raw_eq := h.raw_eq
  feed_not_mem hmem :=
    Text.sep_not_mem_of_mem_splitOn (List.mem_of_getElem? h.row) (List.mem_append_left ret hmem)
  line_eq := h.line_eq
  position_eq := by
    have hon : (ofText text).OnLine k (extent ((rows text).take k))
        (extent ((rows text).take k)) :=
      onLine_ofText_iff.mpr ⟨_, h.row, rfl, le_rfl, Nat.le_add_right _ _⟩
    rw [h.start_eq, position, hon.position_eq (ascending_ofText text), Int.sub_self, Int.zero_add]

/-- The characters of a node and its end lie on the line of the node, counted from its start. -/
theorem position_add (h : ShowsRow text k n ret) {j : ℕ} (hj : j ≤ n.raw.length) :
    position text (n.start + j) = ⟨n.line, j + 1⟩ := by
  have hon : (ofText text).OnLine k (extent ((rows text).take k))
      (extent ((rows text).take k) + j) :=
    onLine_ofText_iff.mpr ⟨_, h.row, rfl, Nat.le_add_right _ _, by rw [List.length_append]; omega⟩
  have hpos := hon.position_eq (ascending_ofText text)
  rw [Int.natCast_add, ← h.start_eq, ← h.line_eq, add_sub_cancel_left] at hpos
  exact hpos

end ShowsRow

/-- What a text gives when it is put together again from line nodes: each node with what stands
between it and the next one, or the end of the text. -/
def restored (text : List Char) : List TextNode → List Char
  | [] => []
  | [n] => n.raw ++ slice text n.stop text.length
  | n :: m :: ns => n.raw ++ slice text n.stop m.start ++ restored text (m :: ns)

/-- **A lossless, ordered decomposition** of a text into line nodes. -/
structure Decomposition (text : List Char) (ns : List TextNode) : Prop where
  isLine : ∀ (k : ℕ) (n : TextNode), ns[k]? = some n → IsLine text k n
  disjoint : ns.Pairwise fun a b => a.stop < b.start
  gap : ∀ (k : ℕ) (a b : TextNode), ns[k]? = some a → ns[k + 1]? = some b →
    slice text a.stop b.start ∈ [['\n'], ['\r', '\n']]
  ending : ∀ n, ns.getLast? = some n →
    slice text n.stop text.length ∈ [[], ['\n'], ['\r'], ['\r', '\n']]
  restored_eq : restored text ns = text

/-- Nodes that are slices and follow each other restore the text from the first one on. -/
theorem restored_eq_slice {text : List Char} : ∀ {n : TextNode} {ns : List TextNode},
    (∀ m ∈ n :: ns, m.start ≤ m.stop ∧ m.stop ≤ text.length ∧ m.raw = slice text m.start m.stop) →
    (n :: ns).Pairwise (fun a b => a.stop < b.start) →
      restored text (n :: ns) = slice text n.start text.length
  | n, [], h, _ => by
      obtain ⟨h₁, h₂, h₃⟩ := h n (by simp)
      rw [restored, h₃, slice_append text h₁ h₂]
  | n, m :: ns, h, hp => by
      obtain ⟨h₁, h₂, h₃⟩ := h n (by simp)
      obtain ⟨h₁', h₂', -⟩ := h m (by simp)
      obtain ⟨hn, hp⟩ := List.pairwise_cons.mp hp
      have hnm := (hn m (by simp)).le
      rw [restored, restored_eq_slice (fun a ha => h a (List.mem_cons_of_mem _ ha)) hp, h₃,
        slice_append text h₁ hnm, slice_append text (h₁.trans hnm) (h₁'.trans h₂')]

/-- Only an empty text has no lines. -/
theorem eq_nil_of_lines_eq_nil {text : List Char} (h : lines text = []) : text = [] := by
  have hext := extent_rows text
  rcases rows_eq_lines text with hr | hr
  · exact absurd (hr.trans h) (Text.splitOn_ne_nil '\n' text)
  · rw [hr, h] at hext
    exact List.length_eq_zero_iff.mp (by simpa using hext.symm)

theorem length_lineNodes (text : List Char) :
    (lineNodes 0 1 (lines text)).length = (lines text).length := by
  have h := length_nodes text
  rwa [nodes, List.length_cons, Nat.add_right_cancel_iff] at h

/-- The line nodes follow each other: a line feed at least stands between two of them. -/
theorem pairwise_lineNodes (text : List Char) :
    (lineNodes 0 1 (lines text)).Pairwise fun a b => a.stop < b.start := by
  refine List.pairwise_iff_getElem.mpr fun i j hi hj hij => ?_
  obtain ⟨ret, ha⟩ := exists_showsRow (List.getElem?_eq_getElem hi)
  obtain ⟨ret', hb⟩ := exists_showsRow (List.getElem?_eq_getElem hj)
  have hext := ha.extent_take_succ
  have hmono := extent_take_mono (rows text) (show i + 1 ≤ j from hij)
  rw [hb.start_eq]
  omega

/-- The line nodes are numbered in order. -/
theorem pairwise_line_lineNodes (text : List Char) :
    (lineNodes 0 1 (lines text)).Pairwise fun a b => a.line < b.line := by
  refine List.pairwise_iff_getElem.mpr fun i j hi hj hij => ?_
  obtain ⟨ret, ha⟩ := exists_showsRow (List.getElem?_eq_getElem hi)
  obtain ⟨ret', hb⟩ := exists_showsRow (List.getElem?_eq_getElem hj)
  rw [ha.line_eq, hb.line_eq]
  omega

/-- The line nodes restore the text, which starts where the first of them does. -/
theorem restored_lineNodes (text : List Char) :
    restored text (lineNodes 0 1 (lines text)) = text := by
  cases hns : lineNodes 0 1 (lines text) with
  | nil =>
    have hl : lines text = [] := by
      rw [← List.length_eq_zero_iff, ← length_lineNodes, hns, List.length_nil]
    rw [eq_nil_of_lines_eq_nil hl]
    rfl
  | cons n ns =>
    have hstart : n.start = 0 := by
      obtain ⟨ret, h⟩ := exists_showsRow (k := 0) (by rw [hns]; rfl)
      exact h.start_eq
    rw [restored_eq_slice (fun m hm => ?_) (hns ▸ pairwise_lineNodes text), hstart,
      slice_zero_length]
    obtain ⟨k, hk⟩ := List.mem_iff_getElem?.mp hm
    obtain ⟨ret, h⟩ := exists_showsRow (hns ▸ hk)
    exact ⟨h.range_le.2.1, h.range_le.2.2, h.raw_eq⟩

namespace ShowsRow

variable {text ret ret' : List Char} {k : ℕ} {a b n : TextNode}

/-- **Between two nodes stands a line break**, the carriage return of the first one's row before
it. -/
theorem gap (ha : ShowsRow text k a ret) (hb : ShowsRow text (k + 1) b ret') :
    slice text a.stop b.start ∈ [['\n'], ['\r', '\n']] := by
  have hstart : b.start = a.stop + ret.length + ['\n'].length := by
    rw [hb.start_eq, ha.extent_take_succ]
    rfl
  have hle := hb.range_le
  rw [hstart, ha.slice_stop (Or.inr rfl) (by omega)]
  rcases ha.ret_eq with rfl | rfl <;> simp

/-- The text ends after the last node, the carriage return of its row and, if the last row of the
text is empty, the line feed before that. -/
theorem exists_length_eq (h : ShowsRow text k n ret) (hk : k + 1 = (lines text).length) :
    ∃ feed, (feed = [] ∨ feed = ['\n']) ∧
      (text.length : ℤ) = n.stop + ret.length + feed.length := by
  have hsucc := h.extent_take_succ
  rw [← take_lines hk.le, hk, List.take_length] at hsucc
  have hext := extent_rows text
  rcases rows_eq_lines text with hr | hr <;> rw [hr] at hext
  · exact ⟨[], Or.inl rfl, by rw [List.length_nil]; omega⟩
  · rw [extent_append] at hext
    exact ⟨['\n'], Or.inr rfl, by simp at hext ⊢; omega⟩

/-- **After the last node** stands a line break or part of one, if anything. -/
theorem ending (h : ShowsRow text k n ret) (hk : k + 1 = (lines text).length) :
    slice text n.stop text.length ∈ [[], ['\n'], ['\r'], ['\r', '\n']] := by
  obtain ⟨feed, hfeed, hlen⟩ := h.exists_length_eq hk
  rw [hlen, h.slice_stop hfeed hlen.ge]
  rcases h.ret_eq with rfl | rfl <;> rcases hfeed with rfl | rfl <;> simp

end ShowsRow

/-- **The nodes of a text lose none of it.**  The first one holds the whole text, and the others are
a lossless, ordered decomposition of it into lines. -/
theorem nodes_decompose (text : List Char) :
    (nodes text).head? = some ⟨wholeKind, 0, text.length, text, 1⟩ ∧
      Decomposition text (nodes text).tail := by
  refine ⟨rfl, fun k n hn => ?_, pairwise_lineNodes text, fun k a b ha hb => ?_, fun n hn => ?_,
    restored_lineNodes text⟩
  · obtain ⟨ret, h⟩ := exists_showsRow hn
    exact h.isLine
  · obtain ⟨ret, ha⟩ := exists_showsRow ha
    obtain ⟨ret', hb⟩ := exists_showsRow hb
    exact ha.gap hb
  · rw [List.getLast?_eq_getElem?] at hn
    obtain ⟨ret, h⟩ := exists_showsRow hn
    have hlt := (List.getElem?_eq_some_iff.mp hn).1
    refine h.ending ?_
    rw [← length_lineNodes]
    exact Nat.sub_add_cancel (Nat.one_le_of_lt hlt)

end Document

end ProseLinter
