import EntityMapper.Wire.Exchange

/-!
# The first row

Where one row is asked for, the server may answer with more. Those after the first one add nothing
to the record that comes of the answer. But all rows are read before the first is taken, so one that
cannot be read is the error of the whole answer, even though the first one could be.
-/

namespace EntityMapper.Wire

open Sql (Statement)

/-- The fields of a row; one without bytes is NULL. -/
abbrev Row := List (Option (List UInt8))

/-! ## Reading rows -/

section

variable {columns : List (String × PgType)} {first row : Row} {rows : List Row} {e : Error}

/-- Why a row cannot be read, if it cannot. -/
def failure? (columns : List (String × PgType)) (row : Row) : Option Error :=
  match decodeRow columns row with
  | .ok _ => none
  | .error e => some e

def IsReadable (columns : List (String × PgType)) (row : Row) : Prop :=
  ∃ r, decodeRow columns row = .ok r

theorem failure?_eq_none : failure? columns row = none ↔ IsReadable columns row := by
  unfold failure? IsReadable
  cases decodeRow columns row <;> simp

theorem failure?_eq_some : failure? columns row = some e ↔ decodeRow columns row = .error e := by
  unfold failure?
  cases decodeRow columns row <;> simp

theorem findSome?_failure?_eq_none :
    rows.findSome? (failure? columns) = none ↔ ∀ row ∈ rows, IsReadable columns row := by
  rw [List.findSome?_eq_none_iff]
  exact forall₂_congr fun _ _ => failure?_eq_none

/-- Reading rows for nothing but to see whether they can be read: the first that cannot is the
error. -/
theorem map_mapM_decodeRow {α : Type} (a : α) :
    ((rows.mapM (decodeRow columns)).map fun _ => a)
      = match rows.findSome? (failure? columns) with
        | some e => .error e
        | none => .ok a := by
  induction rows with
  | nil => rfl
  | cons row rows ih =>
      rw [List.mapM_cons, List.findSome?_cons]
      cases hrow : decodeRow columns row with
      | error e =>
          rw [failure?_eq_some.mpr hrow]
          rfl
      | ok r =>
          rw [failure?_eq_none.mpr ⟨r, hrow⟩, ← ih]
          cases rows.mapM (decodeRow columns) <;> rfl

end

/-! ## Answers -/

namespace Server

variable {server : Server} {source : Source} {s : Statement}

/-- The server with other rows in its answer. -/
def answering (server : Server) (rows : List Row) : Server := { server with rows }

/-- Whether a statement gets as far as to an answer with rows. -/
structure Answers (server : Server) (source : Source) (s : Statement) : Prop where
  connected : source ≠ .pooled true
  accepted : server.error = none
  counted : s.params.length = server.params.length
  encoded : ∃ bound, encodeParams 0 server.params s.params = .ok bound

/-- The server's answer is then what comes of the call. -/
theorem Answers.outcome_call (h : server.Answers source s) (request : Request) :
    (server.call source request s).outcome = server.answer request := by
  obtain ⟨bound, hbound⟩ := h.encoded
  have hparse : server.parseError? = none := by
    rw [parseError?, h.accepted]
    rfl
  have hexchange : (server.exchange request s).outcome = server.answer request := by
    rw [exchange, hparse]
    dsimp only
    rw [if_neg (not_not_intro h.counted), hbound]
  rw [← hexchange]
  cases source with
  | direct => rfl
  | pooled isClosed =>
      cases isClosed with
      | false => rfl
      | true => exact absurd rfl h.connected

/-- What is left of an answer with rows is its first row, if all of them can be read. -/
theorem answer_fetchOne (haccepted : server.error = none) (first : Row) (others : List Row) :
    (server.answering (first :: others)).answer .fetchOne = (do
      let r ← decodeRow server.columns first
      (others.mapM (decodeRow server.columns)).map fun _ => .record (some r)) := by
  rw [answer, answering, haccepted]
  change ((first :: others).mapM (decodeRow server.columns)).map
    (fun records => Answer.record records.head?) = _
  rw [List.mapM_cons]
  cases decodeRow server.columns first with
  | error e => rfl
  | ok r => cases others.mapM (decodeRow server.columns) <;> rfl

/-- **Rows after the first one count for nothing only if they can be read.**

Let a statement be answered with a first row and others, whatever these are. What is fetched as the
one row is what comes of the first row alone if and only if that row cannot be read or all of the
others can. In the remaining case the outcome is an error, that of the first row that cannot be
read. -/
theorem extra_rows_ignored_iff (h : server.Answers source s) (first : Row) (others : List Row) :
    let outcome := ((server.answering (first :: others)).call source .fetchOne s).outcome
    let alone : Except Error Answer :=
      (decodeRow server.columns first).map fun r => .record (some r)
    (outcome = alone ↔
      ¬IsReadable server.columns first ∨ ∀ row ∈ others, IsReadable server.columns row) ∧
    (IsReadable server.columns first → ∀ e,
      outcome = .error e ↔ others.findSome? (failure? server.columns) = some e) := by
  intro outcome alone
  have hanswers : (server.answering (first :: others)).Answers source s :=
    ⟨h.connected, h.accepted, h.counted, h.encoded⟩
  have houtcome : outcome = _ :=
    (hanswers.outcome_call .fetchOne).trans (answer_fetchOne h.accepted first others)
  cases hfirst : decodeRow server.columns first with
  | error e =>
      have hbad : ¬IsReadable server.columns first := by
        rintro ⟨r, hr⟩
        rw [hfirst] at hr
        cases hr
      have hsame : outcome = alone := by
        simp only [houtcome, alone, hfirst]
        rfl
      exact ⟨iff_of_true hsame (.inl hbad), fun hread => absurd hread hbad⟩
  | ok r =>
      have hread : IsReadable server.columns first := ⟨r, hfirst⟩
      have halone : alone = .ok (.record (some r)) := by
        simp only [alone, hfirst]
        rfl
      have hothers : outcome = match others.findSome? (failure? server.columns) with
          | some e => .error e
          | none => .ok (.record (some r)) := by
        rw [houtcome, hfirst, ← map_mapM_decodeRow]
        rfl
      -- both sides of the equivalence say that no failure is found among the others
      rw [or_iff_right (not_not_intro hread), ← findSome?_failure?_eq_none, halone, hothers]
      cases others.findSome? (failure? server.columns) with
      | none => exact ⟨iff_of_true rfl rfl, fun _ e => ⟨nofun, nofun⟩⟩
      | some e => exact ⟨⟨nofun, nofun⟩, fun _ e' => by rw [Except.error.injEq, Option.some.injEq]⟩

end Server

/-- A server with truth values in a table. -/
def flagServer : Server :=
  { params := [], columns := [("done", .scalar .bool)], rows := [], tag := "SELECT 2",
    error := none }

/-- Of two rows that can be read the first one is fetched. -/
theorem Server.extra_rows_ignored_flags :
    let s : Statement := ⟨"SELECT done FROM t", []⟩
    flagServer.Answers .direct s ∧
      ((flagServer.answering [[some [1]], [some [0]]]).call .direct .fetchOne s).outcome
        = .ok (.record (some ⟨[("done", .bool true)]⟩)) := by
  intro s
  have h : flagServer.Answers .direct s := ⟨nofun, rfl, rfl, [], rfl⟩
  have hother : ∀ row ∈ [([some [0]] : Row)], IsReadable flagServer.columns row := by
    intro row hrow
    rw [List.mem_singleton.mp hrow]
    exact ⟨_, rfl⟩
  exact ⟨h, ((Server.extra_rows_ignored_iff h [some [1]] _).1.mpr (.inr hother)).trans rfl⟩

/-- A second row with a byte too many takes away a first one that could be read. -/
theorem Server.extra_row_spoils_first :
    let outcome (rows : List Row) := ((flagServer.answering rows).call .direct .fetchOne
      ⟨"SELECT done FROM t", []⟩).outcome
    outcome [[some [1]]] = .ok (.record (some ⟨[("done", .bool true)]⟩)) ∧
      outcome [[some [1]], [some [0, 0]]]
        = .error (.decode "done" "error deserializing column 0") :=
  ⟨rfl, rfl⟩

end EntityMapper.Wire
