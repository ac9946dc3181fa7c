import EntityMapper.Proofs.Acceptance
import EntityMapper.Proofs.Literals
import EntityMapper.Proofs.Scanner

/-!
# Definitions of tables

The definition of a table is the only statement into which values are written: the defaults of the
columns. Every literal leads a scanner back to where it began, whatever it holds, and so does
everything around it as long as the SQL types do. Therefore a default stays in the item of its
column, and the definition is read back as the list of its columns.
-/

namespace EntityMapper

open Number Sql

/-! ## Literals -/

theorem isPlain_of_isNumeral {t : List Char} (h : IsNumeral t) : IsPlain t :=
  fun c hc => isPlain_of_class (p := isNumeralChar) (by decide) (h c hc)

theorem isPlain_toString_nat (n : Nat) : IsPlain (toString n).toList := by
  rw [toList_toString_nat]
  exact isPlain_of_isNumeral (isNumeral_toDigits n)

variable {round square : Nat}

theorem leadsBack_floatLiteral (x : Binary64) :
    LeadsBack round square (floatLiteral x).toList := by
  unfold floatLiteral
  split
  · exact leadsBack_unquoted (t := "NaN".toList) (by decide)
  · split
    · split
      · exact leadsBack_unquoted (t := "-Infinity".toList) (by decide)
      · exact leadsBack_unquoted (t := "Infinity".toList) (by decide)
    · exact leadsBack_plain (isPlain_of_isNumeral (Number.isNumeral_text .literal x))

/-- Further items begin with a comma. -/
theorem head_literalTail (items : List Value) :
    (Value.literalTail items).toList.head? ≠ some '\'' := by
  cases items with
  | nil => decide
  | cons item rest =>
      change (", " ++ item.literal ++ Value.literalTail rest).toList.head? ≠ _
      rw [String.toList_append, String.toList_append]
      change some ',' ≠ some '\''
      decide

mutual

/-- **Every literal leads back**, whatever its value holds. -/
theorem leadsBack_literal (round square : Nat) : (v : Value) →
    LeadsBack round square v.literal.toList
  | .null => leadsBack_plain (by decide)
  | .bool b => leadsBack_plain (by cases b <;> decide)
  | .int n => leadsBack_plain (isPlain_of_isNumeral (isNumeral_toString_int n.toInt))
  | .float x => leadsBack_floatLiteral x
  | .text s => leadsBack_quote s
  | .bytes b => by
      rw [Value.quote_bytes]
      exact leadsBack_quote _
  | .uuid u => leadsBack_quote u.text
  | .timestamp t => leadsBack_quote t.text
  | .timestampTz t => leadsBack_quote (t.isoText ++ "+00:00")
  | .json j => leadsBack_quote j.compact
  | .array [] => leadsBack_unquoted (t := "\x7b\x7d".toList) (by decide)
  | .array (item :: rest) => by
      change LeadsBack _ _ ("ARRAY[" ++ item.literal ++ Value.literalTail rest ++ "]").toList
      have hitems := (leadsBack_literal round (square + 1) item).append
        (leadsBack_literalTail round square rest) (head_literalTail rest)
      have hlist : LeadsBack round square ('[' :: (item.literal.toList
          ++ (Value.literalTail rest).toList) ++ [']']) := ⟨.outside, by decide, hitems.inSquare⟩
      rw [String.toList_append, String.toList_append, String.toList_append]
      exact hlist.plain_append (t := "ARRAY".toList) (by decide)

/-- So do further items, inside of the brackets around them. -/
theorem leadsBack_literalTail (round square : Nat) : (items : List Value) →
    LeadsBack round (square + 1) (Value.literalTail items).toList
  | [] => leadsBack_plain (by decide)
  | item :: rest => by
      change LeadsBack _ _ (", " ++ item.literal ++ Value.literalTail rest).toList
      have hcomma : LeadsBack round (square + 1) [','] := leadsBack_comma (.inr (by omega))
      have hblank := (leadsBack_literal round (square + 1) item).plain_append (t := [' '])
        (by decide)
      have hnoquote : (' ' :: item.literal.toList).head? ≠ some '\'' := by
        change some ' ' ≠ some '\''
        decide
      rw [String.toList_append, String.toList_append]
      exact (hcomma.append hblank hnoquote).append (leadsBack_literalTail round square rest)
        (head_literalTail rest)

end

/-! ## SQL types -/

namespace Sql

/-- Whether brackets of one kind are open at the end of a text. -/
def IsOpen (opening closing : Char) (t : List Char) : Prop := t.count closing < t.count opening

/-- Whether the brackets of one kind are balanced: none ends that did not begin, none stays open. -/
structure IsBalanced (opening closing : Char) (t : List Char) : Prop where
  begun : ∀ before, before <+: t → before.count closing ≤ before.count opening
  ended : t.count closing = t.count opening

/-- Whether a text can be an SQL type: it has no quotes, its brackets are balanced, and its commas
stand between brackets. -/
structure IsTypeText (t : List Char) : Prop where
  unquoted : '\'' ∉ t
  round : IsBalanced '(' ')' t
  square : IsBalanced '[' ']' t
  commas : ∀ before, before ++ [','] <+: t → IsOpen '(' ')' before ∨ IsOpen '[' ']' before

instance (opening closing : Char) (t : List Char) : Decidable (IsOpen opening closing t) :=
  inferInstanceAs (Decidable (_ < _))

instance (opening closing : Char) (t : List Char) : Decidable (IsBalanced opening closing t) :=
  decidable_of_iff ((∀ before ∈ t.inits, before.count closing ≤ before.count opening)
    ∧ t.count closing = t.count opening)
    ⟨fun h => ⟨fun before hb => h.1 before ((List.mem_inits before t).mpr hb), h.2⟩,
      fun h => ⟨fun before hb => h.begun before ((List.mem_inits before t).mp hb), h.ended⟩⟩

instance (t : List Char) : Decidable (IsTypeText t) :=
  decidable_of_iff ('\'' ∉ t ∧ IsBalanced '(' ')' t ∧ IsBalanced '[' ']' t
    ∧ ∀ before ∈ t.inits, before ++ [','] <+: t → IsOpen '(' ')' before ∨ IsOpen '[' ']' before)
    ⟨fun ⟨hquote, hround, hsquare, hcommas⟩ => ⟨hquote, hround, hsquare, fun before hb =>
        hcommas before ((List.mem_inits before t).mpr ((List.prefix_append before _).trans hb)) hb⟩,
      fun h => ⟨h.unquoted, h.round, h.square, fun before _ => h.commas before⟩⟩

example : IsTypeText "NUMERIC(9,2)[3]".toList ∧ ¬ IsTypeText "TEXT, b TEXT".toList := by decide

/-- The place after a character tells which brackets are open. -/
theorem step_of_counts {c : Char} {r q r' q' : Nat} (hc : c ≠ '\'')
    (hr : r' + [c].count ')' = r + [c].count '(') (hq : q' + [c].count ']' = q + [c].count '[') :
    (Place.mk .outside r q).step c = some ⟨.outside, r', q'⟩ := by
  simp only [List.count_singleton, beq_iff_eq] at hr hq
  unfold Place.step
  grind

/-- No item ends at a bracket that ends another one, nor at a comma between brackets. -/
theorem endsItem_of_counts {c : Char} {r q : Nat} (hround : [c].count ')' ≤ r + [c].count '(')
    (hcomma : c = ',' → 0 < r ∨ 0 < q) : (Place.mk .outside r q).endsItem c = false := by
  simp only [List.count_singleton, beq_iff_eq] at hround
  simp only [Place.endsItem, Place.isTop]
  grind

/-- A text is crossed where its brackets fit those that are open. -/
theorem crosses_brackets {t : List Char} {r q r' q' : Nat} (hquote : '\'' ∉ t)
    (hround : ∀ before, before <+: t → before.count ')' ≤ r + before.count '(')
    (hsquare : ∀ before, before <+: t → before.count ']' ≤ q + before.count '[')
    (hcommas : ∀ before, before ++ [','] <+: t →
      before.count ')' < r + before.count '(' ∨ before.count ']' < q + before.count '[')
    (hr : r' + t.count ')' = r + t.count '(') (hq : q' + t.count ']' = q + t.count '[') :
    Crosses ⟨.outside, r, q⟩ t ⟨.outside, r', q'⟩ := by
  induction t generalizing r q with
  | nil =>
      obtain rfl : r' = r := by simpa using hr
      obtain rfl : q' = q := by simpa using hq
      exact .nil _
  | cons c t ih =>
      rw [List.mem_cons, not_or] at hquote
      have hcount : ∀ (d : Char) (u : List Char), (c :: u).count d = [c].count d + u.count d :=
        fun d u => (List.count_append : ([c] ++ u).count d = _)
      have hfirst : [c] <+: c :: t := List.prefix_append [c] t
      -- so many brackets are open after the first character
      obtain ⟨r₁, hr₁⟩ := Nat.exists_eq_add_of_le' (hround [c] hfirst)
      obtain ⟨q₁, hq₁⟩ := Nat.exists_eq_add_of_le' (hsquare [c] hfirst)
      refine .cons (step_of_counts (Ne.symm hquote.1) hr₁.symm hq₁.symm)
        (endsItem_of_counts (hround [c] hfirst) ?_)
        (ih hquote.2 (fun before h => ?_) (fun before h => ?_) (fun before h => ?_) ?_ ?_)
      · rintro rfl
        simpa using hcommas [] hfirst
      · have hopen := hround (c :: before) (List.cons_prefix_cons.mpr ⟨rfl, h⟩)
        rw [hcount ')' before, hcount '(' before] at hopen
        omega
      · have hopen := hsquare (c :: before) (List.cons_prefix_cons.mpr ⟨rfl, h⟩)
        rw [hcount ']' before, hcount '[' before] at hopen
        omega
      · have hopen := hcommas (c :: before) (List.cons_prefix_cons.mpr ⟨rfl, h⟩)
        rw [hcount ')' before, hcount '(' before, hcount ']' before, hcount '[' before] at hopen
        omega
      · rw [hcount ')' t, hcount '(' t] at hr
        omega
      · rw [hcount ']' t, hcount '[' t] at hq
        omega

/-- **What can be an SQL type leads back wherever it stands.** -/
theorem IsTypeText.selfContained {t : List Char} (h : IsTypeText t) : SelfContained t := by
  intro r q
  have hround := h.round.begun
  have hsquare := h.square.begun
  refine ⟨.outside, by decide, crosses_brackets h.unquoted (fun before hb => ?_)
    (fun before hb => ?_) (fun before hb => ?_) ?_ ?_⟩
  · exact (hround before hb).trans (Nat.le_add_left ..)
  · exact (hsquare before hb).trans (Nat.le_add_left ..)
  · exact (h.commas before hb).imp (Nat.lt_add_left _) (Nat.lt_add_left _)
  · rw [h.round.ended]
  · rw [h.square.ended]

/-! ## Pieces in a row -/

/-- Whether a text leads back also right after another one. -/
structure CanFollow (t : List Char) : Prop where
  selfContained : SelfContained t
  head : t.head? ≠ some '\''

theorem CanFollow.of_plain {t : List Char} (h : IsPlain t) : CanFollow t := by
  refine ⟨fun _ _ => leadsBack_plain h, fun hhead => ?_⟩
  exact absurd (h _ (List.mem_of_head? hhead)) (by decide)

/-- What leads back between brackets can follow. -/
theorem CanFollow.of_brackets {opening : Char} {t : List Char} (hopening : opening ≠ '\'')
    (h : ∀ round square,
      Crosses ⟨.outside, round, square⟩ (opening :: t) ⟨.outside, round, square⟩) :
    CanFollow (opening :: t) :=
  ⟨fun round square => ⟨.outside, by decide, h round square⟩, by simpa using hopening⟩

/-- Anything that leads back can follow a plain text that is not empty. -/
theorem CanFollow.of_plain_append {c : Char} {t u : List Char} (ht : IsPlain (c :: t))
    (hu : SelfContained u) : CanFollow (c :: t ++ u) := by
  refine ⟨fun round square => (hu round square).plain_append ht, fun hhead => ?_⟩
  obtain rfl : c = '\'' := Option.some.inj hhead
  exact absurd (ht _ List.mem_cons_self) (by decide)

theorem SelfContained.append {t u : List Char} (ht : SelfContained t) (hu : CanFollow u) :
    SelfContained (t ++ u) :=
  fun round square => (ht round square).append (hu.selfContained round square) hu.head

/-! ## Lists -/

/-- A list of texts leads back inside of the brackets around it. -/
theorem leadsBack_intercalate {round square : Nat} (hround : round ≠ 0) {items : List String}
    (h : ∀ t ∈ items, SelfContained t.toList) :
    LeadsBack round square (String.intercalate ", " items).toList := by
  induction items with
  | nil => exact leadsBack_plain (by decide)
  | cons first items ih =>
      have hfirst := h first List.mem_cons_self round square
      cases items with
      | nil => rwa [String.intercalate_singleton]
      | cons second items =>
          have hrest := (ih fun t ht => h t (List.mem_cons_of_mem _ ht)).plain_append (t := [' '])
            (by decide)
          have hcomma : LeadsBack round square [','] := leadsBack_comma (.inl hround)
          have hothers := hcomma.append hrest (by simp)
          rw [String.intercalate_cons_cons, String.toList_append, String.toList_append,
            List.append_assoc]
          exact hfirst.append hothers (by simp)

/-- At the top of a list commas and closing brackets end an item. -/
theorem endsItem_top {k : Quoting} (hk : k ≠ .inside) {c : Char} (hc : c = ',' ∨ c = ')') :
    (Place.mk k 0 0).endsItem c = true := by
  simp [Place.endsItem, Place.isTop, hk, hc]

/-- A list of texts is read as these texts. -/
theorem readList_intercalate {first : String} {others : List String}
    (h : ∀ t ∈ first :: others, SelfContained t.toList) (begun : List Char) :
    readList .start begun ((String.intercalate ", " (first :: others)).toList ++ [')'])
      = some ((begun ++ first.toList) :: others.map (' ' :: ·.toList), []) := by
  induction others generalizing first begun with
  | nil =>
      obtain ⟨k, hk, hfirst⟩ := h first List.mem_cons_self 0 0
      rw [String.intercalate_singleton]
      refine (hfirst.readList begun [')']).trans ?_
      rw [readList, if_pos (endsItem_top hk (.inr rfl)), if_pos rfl, List.map_nil]
  | cons second others ih =>
      obtain ⟨k, hk, hfirst⟩ := h first List.mem_cons_self 0 0
      have hrest := ih (fun t ht => h t (List.mem_cons_of_mem _ ht)) [' ']
      rw [String.intercalate_cons_cons, String.toList_append, String.toList_append,
        List.append_assoc, List.append_assoc]
      refine (hfirst.readList begun _).trans ?_
      generalize (String.intercalate ", " (second :: others)).toList ++ [')'] = rest at hrest
      -- the blank after the comma begins the next item
      have hblank : readList .start [] (' ' :: rest) = readList .start [' '] rest := rfl
      change readList _ _ (',' :: ' ' :: rest) = _
      rw [readList, if_pos (endsItem_top hk (.inl rfl)), if_neg (by decide), hblank, hrest]
      rfl

/-- The list begins after the first bracket. -/
theorem afterOpening_plain {t : List Char} (h : IsPlain t) (rest : List Char) :
    afterOpening .start (t ++ '(' :: rest) = some rest := by
  induction t with
  | nil => rfl
  | cons c t ih =>
      obtain ⟨hc, ht⟩ := List.forall_mem_cons.mp h
      have hopening : c ≠ '(' := by
        rintro rfl
        exact absurd hc (by decide)
      have hstep : Place.start.step c = some .start := (step_plain hc (by decide)).1
      rw [List.cons_append, afterOpening, if_neg (fun hand => hopening hand.2), hstep]
      exact ih ht

theorem isPlain_of_isIdentifier {name : String} (h : isIdentifier name = true) :
    IsPlain name.toList := by
  obtain ⟨_, _, -, -, hall⟩ := isIdentifierChars_cons h
  exact fun c hc => isPlain_of_class (p := isIdentifierRest) (by decide) (hall c hc)

end Sql

/-! ## Columns and tables -/

namespace Column

variable (c : Column)

theorem canFollow_sizeText : CanFollow c.sizeText.toList := by
  unfold sizeText
  split
  · rename_i n _
    rw [String.toList_append, String.toList_append]
    exact .of_brackets (by decide) fun _ _ => (leadsBack_plain (isPlain_toString_nat n)).inRound
  · exact .of_plain (by decide)

theorem canFollow_arrayText : CanFollow c.arrayText.toList := by
  unfold arrayText
  split
  · split
    · rename_i n _
      rw [String.toList_append, String.toList_append]
      exact .of_brackets (by decide) fun _ _ => (leadsBack_plain (isPlain_toString_nat n)).inSquare
    · exact .of_brackets (t := [']']) (by decide) fun _ _ =>
        (leadsBack_plain (t := []) (by decide)).inSquare
  · exact .of_plain (by decide)

theorem canFollow_defaultText : CanFollow c.defaultText.toList := by
  unfold defaultText
  split
  · rename_i v _
    rw [String.toList_append]
    exact .of_plain_append (c := ' ') (t := "DEFAULT ".toList) (by decide)
      fun round square => leadsBack_literal round square v
  · exact .of_plain (by decide)

/-- The SQL type with all clauses leads back if the bare one does. -/
theorem selfContained_sqlType {c : Column} (h : IsTypeText c.baseType.toList) :
    SelfContained c.sqlType.toList := by
  have hword : ∀ (present : Bool) (word : String), IsPlain word.toList →
      CanFollow (if present then word else "").toList := by
    intro present word hword
    split
    · exact .of_plain hword
    · exact .of_plain (by decide)
  unfold sqlType
  simp only [String.toList_append]
  exact (((((h.selfContained.append c.canFollow_sizeText).append c.canFollow_arrayText).append
    (hword _ _ (by decide))).append (hword _ _ (by decide))).append c.canFollow_defaultText).append
    (hword _ _ (by decide))

end Column

namespace Schema

/-- The item of a column in the definition of its table. -/
def item (column : String × Column) : String := column.1 ++ " " ++ column.2.sqlType

theorem selfContained_item {column : String × Column} (hname : isIdentifier column.1 = true)
    (htype : IsTypeText column.2.baseType.toList) : SelfContained (item column).toList := by
  intro round square
  rw [item, String.toList_append]
  refine (Column.selfContained_sqlType htype round square).plain_append ?_
  rw [String.toList_append]
  exact (isPlain_of_isIdentifier hname).append (by decide)

/-- The definition is a list of the columns' items after a plain text. -/
theorem toList_createTableSql (s : Schema) :
    s.createTableSql.toList = ("CREATE TABLE IF NOT EXISTS " ++ s.table ++ " ").toList
      ++ ('(' :: (String.intercalate ", " (s.columns.map item)).toList ++ [')']) := by
  have hopening : " (".toList = ' ' :: ['('] := rfl
  have hblank : " ".toList = [' '] := rfl
  have hclosing : ")".toList = [')'] := rfl
  unfold createTableSql
  simp only [String.toList_append, hopening, hblank, hclosing, List.append_assoc, List.cons_append,
    List.nil_append]
  rfl

theorem isPlain_beforeList {s : Schema} (h : isIdentifier s.table = true) :
    IsPlain ("CREATE TABLE IF NOT EXISTS " ++ s.table ++ " ").toList := by
  rw [String.toList_append, String.toList_append]
  exact (IsPlain.append (by decide) (isPlain_of_isIdentifier h)).append (by decide)

/-- What is read of the items is the items, as none is empty. -/
theorem listItems_items (first : String × Column) (others : List (String × Column)) :
    (listItems ((item first).toList :: (others.map item).map (' ' :: ·.toList))).map String.ofList
      = (first :: others).map item := by
  have hfirst : (item first).toList ≠ [] := by simp [item]
  rw [listItems]
  · simp [dropBlank, Function.comp_def]
  · intro hnil
    exact absurd hnil hfirst

/-- **No default leaves the item of its column.** Whatever the defaults are, the definition of a
table ends outside of literals and brackets, and it is read as one item for each column, in order:
its name and its SQL type. -/
theorem createTableSql_lists_columns {shape : Shape} {s : Schema} (h : ofShape shape = .ok s)
    (htypes : ∀ d ∈ s.columns, IsTypeText d.2.baseType.toList) :
    scan .start s.createTableSql.toList = some .start
      ∧ finalList s.createTableSql
        = some (s.columns.map fun (name, c) => name ++ " " ++ c.sqlType) := by
  have hs := wellFormed_of_ofShape h
  have hitems : ∀ t ∈ s.columns.map item, SelfContained t.toList := by
    intro t ht
    obtain ⟨d, hd, rfl⟩ := List.mem_map.mp ht
    exact selfContained_item (hs.columns.named d hd) (htypes d hd)
  have hbefore := isPlain_beforeList hs.table
  constructor
  · rw [toList_createTableSql]
    exact ((crosses_plain hbefore).append (leadsBack_intercalate (by decide) hitems).inRound).scan
  · rw [finalList, toList_createTableSql, List.cons_append, afterOpening_plain hbefore]
    change (readList .start [] _ >>= _) = some (s.columns.map item)
    cases hcolumns : s.columns with
    | nil => rfl
    | cons first others =>
        rw [hcolumns] at hitems
        rw [List.map_cons, readList_intercalate hitems]
        exact congrArg some (listItems_items first others)

end Schema

/-- A shape whose defaults look like the end of a literal, of an item and of the list. -/
def Shape.notes : Shape :=
  ⟨"Note", none, [("title", Column.text.withDefault (.text "it's, ('")),
    ("tags", Column.text.asArray.withDefault (.array [.text "'],", .text "\\"])),
    ("price", (Column.float.customize fun _ => "NUMERIC(9,2)").withDefault .null)], none⟩

/-- The statement of `Shape.notes` is split at the commas between its items only. -/
theorem Schema.createTableSql_lists_notes :
    ofShape .notes = .ok Shape.notes.schema
      ∧ (∀ d ∈ Shape.notes.schema.columns, IsTypeText d.2.baseType.toList)
      ∧ finalList Shape.notes.schema.createTableSql = some ["title TEXT DEFAULT 'it''s, ('''",
        "tags TEXT[] DEFAULT ARRAY['''],', '\\']", "price NUMERIC(9,2) DEFAULT NULL"] := by
  have h : ofShape .notes = .ok Shape.notes.schema := rfl
  have htypes : ∀ d ∈ Shape.notes.schema.columns, IsTypeText d.2.baseType.toList := by decide
  exact ⟨h, htypes, (createTableSql_lists_columns h htypes).2⟩

end EntityMapper
