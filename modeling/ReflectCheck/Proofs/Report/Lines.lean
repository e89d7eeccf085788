import ReflectCheck.Report

/-!
# Reports read line by line

A text is read as lines (`Text.lines`) by cutting it at each line feed: a carriage return
just before a line feed is part of the line ending, and a final line feed ends the last line
without starting another. A text made of pieces, each ended by a line feed, reads back as
those pieces exactly when each of them stays one line (`Text.OneLine`): it holds no line feed,
and it does not end in a carriage return (`Text.lines_join_iff`).

The text of a run is the line of each record and then the summary line, each ended by a line
feed. The summary line always stays one line, so the text reads back as one line per record
followed by the summary line exactly when every record's line stays one line
(`RunReport.lines_renderText_iff`). A record's line does when its description holds no line
feed, unless it is blank, and its inspected values and its error stay one line
(`Record.oneLine_line`). The description is copied into the line as it is: a description that
is not blank and holds a line feed breaks its record over two lines
(`Record.noFeed_description`).
-/

namespace ReflectCheck

namespace Text

/-- A text that stays one line when it is read back: it holds no line feed, and it does not
    end in a carriage return, which would be read as part of its line ending. -/
structure OneLine (s : String) : Prop where
  noFeed : '\n' ∉ s.toList
  noReturnAtEnd : s.toList.getLast? ≠ some '\r'

instance : DecidablePred OneLine := fun s =>
  decidable_of_iff ('\n' ∉ s.toList ∧ s.toList.getLast? ≠ some '\r')
    ⟨fun h => ⟨h.1, h.2⟩, fun h => ⟨h.noFeed, h.noReturnAtEnd⟩⟩

/-- A text with neither a line feed nor a carriage return: it stays one line wherever it
    stands in a line. -/
def Plain (s : String) : Prop := ∀ c ∈ s.toList, c ≠ '\n' ∧ c ≠ '\r'

-- decided character by character along the text, never by the instance that runs over
-- every character there is
instance : DecidablePred Plain := fun s => List.decidableBAll _ s.toList

/-- A line without the carriage return that ends it, if it has one. -/
def dropReturn (cs : List Char) : List Char :=
  if cs.getLast? = some '\r' then cs.dropLast else cs

/-- The lines of `cs`, when the characters `cur` of the line it starts in are read already. -/
def linesFrom (cur : List Char) : List Char → List (List Char)
  | [] => if cur = [] then [] else [cur]
  | c :: rest =>
    if c = '\n' then dropReturn cur :: linesFrom [] rest else linesFrom (cur ++ [c]) rest

/-- The lines of a text: the pieces between its line feeds, each without a carriage return
    just before its line feed. A final line feed ends the last line and starts no other. -/
def lines (s : String) : List String := (linesFrom [] s.toList).map String.ofList

example : lines "foo\nbar\n\r\nbaz\r" = ["foo", "bar", "", "baz\r"] := by decide

/-! ### Texts that stay one line -/

theorem Plain.oneLine {s : String} (h : Plain s) : OneLine s where
  noFeed hc := (h _ hc).1 rfl
  noReturnAtEnd hl := (h _ (List.mem_of_getLast? hl)).2 rfl

@[simp]
theorem plain_append {a b : String} : Plain (a ++ b) ↔ Plain a ∧ Plain b := by
  simp only [Plain, String.toList_append, List.mem_append]
  constructor
  · intro h
    exact ⟨fun c hc => h c (.inl hc), fun c hc => h c (.inr hc)⟩
  · rintro ⟨ha, hb⟩ c (hc | hc)
    · exact ha c hc
    · exact hb c hc

@[simp]
theorem plain_toString_nat (n : Nat) : Plain (toString n) := by
  intro c hc
  rw [Nat.toString_eq_ofList_toDigits, String.toList_ofList] at hc
  have hd := Nat.isDigit_of_mem_toDigits (by decide) (by decide) hc
  constructor <;> rintro rfl <;> exact absurd hd (by decide)

theorem OneLine.append {a b : String} (ha : OneLine a) (hb : OneLine b) : OneLine (a ++ b) where
  noFeed := by
    rw [String.toList_append, List.mem_append]
    exact fun hc => hc.elim ha.noFeed hb.noFeed
  noReturnAtEnd := by
    rw [String.toList_append, List.getLast?_append]
    cases hl : b.toList.getLast? with
    | none => exact ha.noReturnAtEnd
    | some c =>
      rw [Option.some_or, ← hl]
      exact hb.noReturnAtEnd

/-- A text with no line feed, followed by a text that stays one line and is not empty: a
    carriage return at the end of the first is inside the line. -/
theorem OneLine.append_of_noFeed {a b : String} (ha : '\n' ∉ a.toList) (hb : OneLine b)
    (hne : b.toList ≠ []) : OneLine (a ++ b) where
  noFeed := by
    rw [String.toList_append, List.mem_append]
    exact fun hc => hc.elim ha hb.noFeed
  noReturnAtEnd := by
    obtain ⟨c, hc⟩ := Option.ne_none_iff_exists'.1 (mt List.getLast?_eq_none_iff.1 hne)
    rw [String.toList_append, List.getLast?_append, hc, Option.some_or, ← hc]
    exact hb.noReturnAtEnd

/-! ### Reading lines back -/

theorem linesFrom_append_feed {l : List Char} (hl : '\n' ∉ l) (cur rest : List Char) :
    linesFrom cur (l ++ '\n' :: rest) = dropReturn (cur ++ l) :: linesFrom [] rest := by
  induction l generalizing cur with
  | nil => simp [linesFrom]
  | cons c l ih =>
    have hc : c ≠ '\n' := fun h => hl (h ▸ List.mem_cons_self)
    rw [List.cons_append, linesFrom, if_neg hc, ih (fun h => hl (List.mem_cons_of_mem c h))]
    simp

/-- No line read holds a line feed. -/
theorem noFeed_of_mem_linesFrom {cur cs p : List Char} (hcur : '\n' ∉ cur)
    (hp : p ∈ linesFrom cur cs) : '\n' ∉ p := by
  induction cs generalizing cur with
  | nil =>
    rw [linesFrom] at hp
    split at hp
    · cases hp
    · rw [List.mem_singleton.1 hp]
      exact hcur
  | cons c rest ih =>
    rw [linesFrom] at hp
    split at hp
    · rcases List.mem_cons.1 hp with rfl | hp
      · -- a line less its carriage return is a part of it
        unfold dropReturn
        split
        · exact fun h => hcur ((List.dropLast_sublist cur).subset h)
        · exact hcur
      · exact ih List.not_mem_nil hp
    · rename_i hc
      refine ih ?_ hp
      rw [List.mem_append, List.mem_singleton]
      exact fun h => h.elim hcur (fun h => hc h.symm)

theorem dropReturn_eq_self {cs : List Char} : dropReturn cs = cs ↔ cs.getLast? ≠ some '\r' := by
  unfold dropReturn
  split
  · rename_i hl
    refine ⟨fun h => ?_, fun h => absurd hl h⟩
    -- dropping the last character shortens a text that has one
    have hlen := congrArg List.length h
    have hpos : 0 < cs.length := List.length_pos_iff.2 (fun h0 => by simp [h0] at hl)
    rw [List.length_dropLast] at hlen
    omega
  · rename_i hl
    exact ⟨fun _ => hl, fun _ => rfl⟩

theorem toList_join_feeds (ls : List String) :
    (String.join (ls.map (· ++ "\n"))).toList = ls.flatMap fun l => l.toList ++ ['\n'] := by
  simp [String.toList_join, List.flatMap_map]

/-- Pieces with no line feed, each ended by one, read back as themselves, less the carriage
    return that ends one of them. -/
theorem lines_join_of_noFeed {ls : List String} (h : ∀ l ∈ ls, '\n' ∉ l.toList) :
    lines (String.join (ls.map (· ++ "\n"))) =
      ls.map fun l => String.ofList (dropReturn l.toList) := by
  rw [lines, toList_join_feeds]
  induction ls with
  | nil => rfl
  | cons l ls ih =>
    rw [List.flatMap_cons, List.append_assoc, List.singleton_append,
      linesFrom_append_feed (h l List.mem_cons_self), List.nil_append, List.map_cons, List.map_cons,
      ih (fun l' hl' => h l' (List.mem_cons_of_mem l hl'))]

/-- Pieces, each ended by a line feed, read back as themselves exactly when each stays one
    line. -/
theorem lines_join_iff (ls : List String) :
    lines (String.join (ls.map (· ++ "\n"))) = ls ↔ ∀ l ∈ ls, OneLine l := by
  constructor
  · intro h
    -- every line read back holds no line feed, so neither does any piece
    have hfeed : ∀ l ∈ ls, '\n' ∉ l.toList := by
      intro l hl
      rw [← h, lines] at hl
      obtain ⟨p, hp, rfl⟩ := List.mem_map.1 hl
      rw [String.toList_ofList]
      exact noFeed_of_mem_linesFrom List.not_mem_nil hp
    rw [lines_join_of_noFeed hfeed] at h
    conv at h => rhs; rw [← List.map_id ls]
    intro l hl
    have hl' := congrArg String.toList ((List.map_inj_left.1 h) l hl)
    rw [String.toList_ofList, id] at hl'
    exact ⟨hfeed l hl, dropReturn_eq_self.1 hl'⟩
  · intro h
    rw [lines_join_of_noFeed fun l hl => (h l hl).noFeed]
    conv => rhs; rw [← List.map_id ls]
    refine List.map_inj_left.2 fun l hl => ?_
    rw [dropReturn_eq_self.2 (h l hl).noReturnAtEnd, String.ofList_toList, id]

end Text

open Text

/-! ### The lines of a report -/

namespace Summary

/-- The summary line is counts and words only. -/
theorem plain_line (s : Summary) : Plain s.line := by
  unfold line
  split <;> simp only [plain_append, plain_toString_nat, true_and, and_true] <;> decide

end Summary

namespace Record

theorem plain_label (k : StatusKind) : Plain k.label := by
  cases k <;> decide

theorem plain_padRight {s : String} (hs : Plain s) (width : Nat) : Plain (padRight s width) := by
  refine plain_append.2 ⟨hs, fun c hc => ?_⟩
  rw [String.toList_ofList, List.mem_replicate] at hc
  rw [hc.2]
  decide

/-- A line starts with the label of its status. -/
theorem line_eq_label_append (r : Record) : ∃ rest, r.line = r.status.label ++ rest := by
  unfold line padRight
  split <;> split <;> simp only [String.append_assoc] <;> exact ⟨_, rfl⟩

/-- A record's line stays one line when its description, unless it is blank, holds no line
    feed and its inspected values and its error stay one line. -/
theorem oneLine_line {r : Record}
    (hd : isBlankText r.description = false → '\n' ∉ r.description.toList)
    (he : OneLine r.expected) (ha : ∀ a ∈ r.actual, OneLine a)
    (herr : ∀ m ∈ r.error, OneLine m) :
    OneLine r.line := by
  -- the label, the description and the words before the expected value hold no line feed
  have hfront : '\n' ∉ (padRight r.status.label 5 ++ " " ++
      (if isBlankText r.description then "<missing description>" else r.description)).toList := by
    have hpad := (plain_padRight (plain_label r.status) 5).oneLine.noFeed
    split
    · simp [hpad]
    · rename_i hb
      simp [hpad, hd (Bool.eq_false_iff.2 hb)]
  have hhead : OneLine (padRight r.status.label 5 ++ " " ++
      (if isBlankText r.description then "<missing description>" else r.description) ++
      "  expected=" ++ r.expected) :=
    (OneLine.append_of_noFeed hfront (by decide : Plain "  expected=").oneLine (by simp)).append he
  unfold line
  cases hact : r.actual with
  | some a => exact (hhead.append (by decide : Plain " actual=").oneLine).append (ha a hact)
  | none =>
    cases herr' : r.error with
    | some m => exact (hhead.append (by decide : Plain " error=").oneLine).append (herr m herr')
    | none => exact hhead

/-- A description that is not blank is copied into the line: the line stays one line only
    if the description holds no line feed. -/
theorem noFeed_description {r : Record} (h : OneLine r.line)
    (hb : isBlankText r.description = false) : '\n' ∉ r.description.toList := by
  intro hd
  apply h.noFeed
  unfold line
  cases r.actual <;> cases r.error <;> simp [hb, hd]

end Record

namespace RunReport

theorem renderText_eq_join (r : RunReport) (inspect : Value → String) :
    r.renderText inspect =
      String.join (((r.records inspect).map Record.line ++ [r.summary.line]).map (· ++ "\n")) := by
  simp [renderText, String.join_append, List.map_map, Function.comp_def, String.append_assoc]

/-- The text of a run reads back as the line of each record, in order, and then the summary
    line, exactly when every record's line stays one line. -/
theorem lines_renderText_iff (r : RunReport) (inspect : Value → String) :
    lines (r.renderText inspect) = (r.records inspect).map Record.line ++ [r.summary.line] ↔
      ∀ rec ∈ r.records inspect, OneLine rec.line := by
  rw [renderText_eq_join, lines_join_iff, List.forall_mem_append, List.forall_mem_map,
    List.forall_mem_singleton]
  exact and_iff_left r.summary.plain_line.oneLine

end RunReport

end ReflectCheck
