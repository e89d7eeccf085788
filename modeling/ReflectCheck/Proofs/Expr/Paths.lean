import ReflectCheck.Proofs.Expr.Grammar

/-!
# Constant paths

A constant path is written as its segments joined by `::`. Splitting a text at its `::`
(`Expr.splitPath`) gives pieces that join back to the text, so a module name that passes
`isConstantPath` is its constant identifiers joined by `::`; and such a text is read by the
parser as the constant path of those identifiers.

* `Expr.intercalate_splitPath`: the pieces of a text, joined by `::`, are the text;
* `Expr.segments_of_isConstantPath`: a constant path is constant identifiers joined by `::`;
* `Expr.parse_path`: constant identifiers joined by `::` parse as their constant path.
-/

namespace ReflectCheck.Expr

/-! ### Splitting at `::` -/

theorem splitPath_ne_nil (cs : List Char) : splitPath cs ≠ [] := by
  fun_cases splitPath cs <;> simp

theorem intercalate_cons_front (sep : List Char) (c : Char) (piece : List Char)
    (pieces : List (List Char)) :
    sep.intercalate ((c :: piece) :: pieces) = c :: sep.intercalate (piece :: pieces) := by
  cases pieces <;> simp [List.intercalate_cons_cons]

theorem intercalate_splitPath (cs : List Char) : [':', ':'].intercalate (splitPath cs) = cs := by
  fun_induction splitPath cs with
  | case1 rest ih =>
    obtain ⟨piece, pieces, hps⟩ := List.exists_cons_of_ne_nil (splitPath_ne_nil rest)
    rw [hps] at ih ⊢
    rw [List.intercalate_cons_cons, ih]
    rfl
  | case2 c rest _ piece pieces hps ih =>
    rw [hps] at ih
    rw [intercalate_cons_front, ih]
  | case3 c rest _ hps => exact absurd hps (splitPath_ne_nil rest)
  | case4 => rfl

/-! ### Constant identifiers -/

theorem isConstantName_of_isConstantIdentifier {s : String} (h : isConstantIdentifier s = true) :
    isConstantName s = true :=
  (Bool.and_eq_true _ _ ▸ h).1

/-- A constant identifier is an identifier lexeme: a capital letter, then letters, digits
    and underscores. -/
theorem chars_of_isConstantIdentifier {s : String} (h : isConstantIdentifier s = true) :
    ∃ c body, s.toList = c :: body ∧ (c.isAlpha ∨ c = '_') ∧
      ∀ d ∈ body, d.isAlphanum ∨ d = '_' := by
  unfold isConstantIdentifier isConstantName at h
  rw [Bool.and_eq_true, List.all_eq_true] at h
  obtain ⟨hname, hall⟩ := h
  split at hname
  · rename_i c body hs
    refine ⟨c, body, hs, .inl ?_, fun d hd => isIdentChar_iff.1 (hall d ?_)⟩
    · show (c.isUpper || c.isLower) = true
      rw [hname, Bool.true_or]
    · rw [hs]
      exact List.mem_cons_of_mem c hd
  · cases hname

theorem colon_not_mem_of_isConstantIdentifier {s : String} (h : isConstantIdentifier s = true) :
    ':' ∉ s.toList := by
  intro hc
  unfold isConstantIdentifier at h
  rw [Bool.and_eq_true, List.all_eq_true] at h
  exact absurd (h.2 ':' hc) (by decide)

/-- The pieces of a text between its `::`, joined by `::`, are the text. -/
theorem intercalate_map_splitPath (path : String) :
    "::".intercalate ((splitPath path.toList).map String.ofList) = path := by
  apply String.toList_inj.1
  rw [String.toList_intercalate, List.map_map]
  simpa [Function.comp_def] using intercalate_splitPath path.toList

/-- A constant path is constant identifiers joined by `::`. -/
theorem segments_of_isConstantPath {path : String} (h : isConstantPath path = true) :
    ∃ segs : List String, segs ≠ [] ∧ (∀ s ∈ segs, isConstantIdentifier s = true) ∧
      "::".intercalate segs = path := by
  unfold isConstantPath at h
  rw [List.all_eq_true] at h
  refine ⟨(splitPath path.toList).map String.ofList, ?_, ?_, intercalate_map_splitPath path⟩
  · simpa using splitPath_ne_nil path.toList
  · intro s hs
    obtain ⟨piece, hp, rfl⟩ := List.mem_map.1 hs
    exact h piece hp

theorem intercalate_append_singleton {segs : List String} (hne : segs ≠ []) (n : String) :
    "::".intercalate (segs ++ [n]) = "::".intercalate segs ++ "::" ++ n := by
  rw [String.intercalate_append_of_ne_nil hne (List.cons_ne_nil _ _), String.intercalate_singleton]

/-! ### Reading a constant path -/

theorem toList_intercalate_path (s : String) (path : List String) :
    ("::".intercalate (s :: path)).toList = s.toList ++ path.flatMap fun x => ':' :: ':' :: x.toList := by
  induction path generalizing s with
  | nil => simp
  | cons x path ih =>
    rw [String.intercalate_cons_cons, String.toList_append, String.toList_append, ih]
    simp

/-- A constant identifier, before a character that cannot continue it, is read as one
    identifier token. -/
theorem tokenizes_constantIdentifier {s : String} (h : isConstantIdentifier s = true)
    {rest : List Char} {ts : List Token} (hr : ∀ d ∈ rest.head?, ¬ (d.isAlphanum ∨ d = '_'))
    (hts : Tokenizes rest ts) : Tokenizes (s.toList ++ rest) (.ident s :: ts) := by
  obtain ⟨c, body, hs, hc, hb⟩ := chars_of_isConstantIdentifier h
  have hl := Tokenizes.lexeme (Lexeme.ident hc hb) (longest_ident hc hr) hts
  rwa [← hs, String.ofList_toList] at hl

theorem head_segments (path : List String) :
    ∀ d ∈ (path.flatMap fun x => ':' :: ':' :: x.toList).head?, ¬ (d.isAlphanum ∨ d = '_') := by
  cases path with
  | nil => simp
  | cons x path =>
    simp only [List.flatMap_cons, List.cons_append, List.head?_cons, Option.mem_def,
      Option.some.injEq]
    rintro d rfl
    decide

/-- The `:: C` segments of a path of constant identifiers are read as separators and
    identifiers. -/
theorem tokenizes_segments {path : List String} (h : ∀ s ∈ path, isConstantIdentifier s = true) :
    Tokenizes (path.flatMap fun x => ':' :: ':' :: x.toList)
      (path.flatMap fun x => [.pathSep, .ident x]) := by
  induction path with
  | nil => exact .nil
  | cons x path ih =>
    have hx := h x List.mem_cons_self
    have hrest := ih fun s hs => h s (List.mem_cons_of_mem x hs)
    have hl : Tokenizes ([':', ':'] ++ (x.toList ++ path.flatMap fun x => ':' :: ':' :: x.toList))
        (.pathSep :: .ident x :: path.flatMap fun x => [.pathSep, .ident x]) :=
      .lexeme .pathSep (longest_punct .pathSep (.inl rfl))
        (tokenizes_constantIdentifier hx (head_segments path) hrest)
    simpa using hl

theorem segmentToks_flatMap {path : List String} (h : ∀ s ∈ path, isConstantIdentifier s = true) :
    SegmentToks (path.flatMap fun x => [.pathSep, .ident x]) path := by
  induction path with
  | nil => exact .nil
  | cons x path ih =>
    exact .cons (isConstantName_of_isConstantIdentifier (h x List.mem_cons_self))
      (ih fun s hs => h s (List.mem_cons_of_mem x hs))

/-- Constant identifiers joined by `::` parse as their constant path, with no calls. -/
theorem parse_path {s : String} {path : List String}
    (h : ∀ x ∈ s :: path, isConstantIdentifier x = true) :
    ∃ e, parse ("::".intercalate (s :: path)) = .ok e ∧ e.receiver = .constant (s :: path) ∧
      e.calls = [] := by
  have hs := h s List.mem_cons_self
  have hpath : ∀ x ∈ path, isConstantIdentifier x = true := fun x hx =>
    h x (List.mem_cons_of_mem s hx)
  have htok := tokenizes_constantIdentifier hs (head_segments path) (tokenizes_segments hpath)
  have hsent : Sentence (.ident s :: path.flatMap fun x => [.pathSep, .ident x])
      (.constant (s :: path)) [] := by
    simpa using Sentence.mk
      (ReceiverToks.constant (isConstantName_of_isConstantIdentifier hs) (segmentToks_flatMap hpath))
      CallsToks.nil
  refine ⟨⟨_, .constant (s :: path), []⟩, parse_eq_ok.2 ⟨rfl, ?_⟩, rfl, rfl⟩
  rw [toList_intercalate_path, scan_complete htok hsent.intsApart]
  exact parseTokens_eq_ok_iff.2 hsent

/-! ### What the parser reads as a constant -/

/-- An identifier token is made of identifier characters. -/
theorem Lexeme.ident_chars {l : List Char} {name : String} (h : Lexeme l (.ident name)) :
    ∀ d ∈ name.toList, isIdentChar d = true := by
  cases h with
  | @ident c body hc hb =>
    intro d hd
    rw [String.toList_ofList] at hd
    rcases List.mem_cons.1 hd with rfl | hd
    · rcases hc with hc | rfl
      · exact isIdentChar_iff.2 (.inl (isAlphanum_iff.2 (.inl hc)))
      · rfl
    · exact isIdentChar_iff.2 (hb d hd)

theorem Tokenizes.ident_chars {cs : List Char} {ts : List Token} (h : Tokenizes cs ts)
    {name : String} (hmem : Token.ident name ∈ ts) : ∀ d ∈ name.toList, isIdentChar d = true := by
  induction h with
  | nil => cases hmem
  | blank _ _ ih => exact ih hmem
  | lexeme hl _ _ ih =>
    rcases List.mem_cons.1 hmem with rfl | hmem
    · exact hl.ident_chars
    · exact ih hmem

theorem SegmentToks.mem {ts : List Token} {path : List String} (h : SegmentToks ts path) :
    ∀ x ∈ path, isConstantName x = true ∧ Token.ident x ∈ ts := by
  induction h with
  | nil => simp
  | cons hc _ ih =>
    intro x hx
    rcases List.mem_cons.1 hx with rfl | hx
    · exact ⟨hc, by simp⟩
    · obtain ⟨hname, hmem⟩ := ih x hx
      exact ⟨hname, by simp [hmem]⟩

/-- The segments of a constant receiver are constant names, each an identifier token of the
    sentence. -/
theorem Sentence.constant_mem {ts : List Token} {path : List String} {ms : List Method}
    (h : Sentence ts (.constant path) ms) :
    ∀ x ∈ path, isConstantName x = true ∧ Token.ident x ∈ ts := by
  obtain ⟨hr, -⟩ := h
  cases hr with
  | constant hc hseg =>
    intro x hx
    rcases List.mem_cons.1 hx with rfl | hx
    · exact ⟨hc, by simp⟩
    · obtain ⟨hname, hmem⟩ := hseg.mem x hx
      exact ⟨hname, by simp [hmem]⟩

/-- Every segment of a constant path that an expression names is a constant identifier. -/
theorem isConstantIdentifier_of_parse {text : String} {e : Expr} (he : parse text = .ok e)
    {path : List String} (hr : e.receiver = .constant path) :
    ∀ x ∈ path, isConstantIdentifier x = true := by
  obtain ⟨-, ts, hts, hs⟩ := parse_eq_ok_iff_sentence.1 he
  rw [hr] at hs
  intro x hx
  obtain ⟨hname, hmem⟩ := hs.constant_mem x hx
  unfold isConstantIdentifier
  rw [hname, Bool.true_and, List.all_eq_true]
  exact hts.ident_chars hmem

/-- A text is a constant path exactly when it parses as the constant path of its pieces
    between `::`, with no calls. -/
theorem isConstantPath_iff_parse (p : String) :
    isConstantPath p = true ↔ ∃ e, parse p = .ok e ∧
      e.receiver = .constant ((splitPath p.toList).map String.ofList) ∧ e.calls = [] := by
  constructor
  · intro h
    have hall : ∀ x ∈ (splitPath p.toList).map String.ofList, isConstantIdentifier x = true := by
      unfold isConstantPath at h
      rw [List.all_eq_true] at h
      intro x hx
      obtain ⟨piece, hp, rfl⟩ := List.mem_map.1 hx
      exact h piece hp
    -- the pieces are not empty, so the path has a first segment
    obtain ⟨s, path, hsp⟩ := List.exists_cons_of_ne_nil
      (List.map_eq_nil_iff.not.2 (splitPath_ne_nil p.toList))
    rw [hsp] at hall
    have hparse := parse_path hall
    rwa [← hsp, intercalate_map_splitPath] at hparse
  · rintro ⟨e, he, hr, -⟩
    unfold isConstantPath
    rw [List.all_eq_true]
    exact fun piece hp => isConstantIdentifier_of_parse he hr _ (List.mem_map_of_mem hp)

/-- The names the loader takes for entities and modules and the constants expressions name
    agree: a text is a constant identifier exactly when it parses as the constant of that one
    segment, and a constant path exactly when it parses as the constant path of its pieces
    between `::`, with no calls in either case; and every segment of a constant path that an
    expression names is a constant identifier. -/
theorem constantNames_match_parse (n p : String) :
    (isConstantIdentifier n = true ↔
      ∃ e, parse n = .ok e ∧ e.receiver = .constant [n] ∧ e.calls = []) ∧
    (isConstantPath p = true ↔ ∃ e, parse p = .ok e ∧
      e.receiver = .constant ((splitPath p.toList).map String.ofList) ∧ e.calls = []) ∧
    (∀ t e path, parse t = .ok e → e.receiver = .constant path →
      ∀ x ∈ path, isConstantIdentifier x = true) := by
  refine ⟨⟨fun h => ?_, ?_⟩, isConstantPath_iff_parse p,
    fun _ _ _ he hr => isConstantIdentifier_of_parse he hr⟩
  · have hparse := @parse_path n [] (by simpa using h)
    rwa [String.intercalate_singleton] at hparse
  · rintro ⟨e, he, hr, -⟩
    exact isConstantIdentifier_of_parse he hr n (List.mem_singleton_self n)

end ReflectCheck.Expr
