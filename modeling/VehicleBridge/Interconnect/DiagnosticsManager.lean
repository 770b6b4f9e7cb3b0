import Mathlib.Data.List.DropRight
import Mathlib.Data.List.Forall2
import VehicleBridge.Interconnect.MessageEnvelope
import VehicleBridge.Lib.FlatJson
import VehicleBridge.Lib.LineText

/-!
# Diagnostic snapshots

`RecordSnapshot` appends a JSON line to a file, of which it keeps the last ones.  Each call reads the file line by line,
puts its own line behind them, drops lines from the front and writes the file again.

The line is put together without escaping.  As long as all texts are plain the file holds what the last calls have
recorded (`recordAll_plain`); the first call with another one leaves a line that is not what has been recorded, or more
than one line (`showsLast_concat_iff`).  So a sequence of calls is recorded exactly where all its texts are plain
(`snapshots_last_iff`).
-/

namespace VehicleBridge

open ByteText LineText FlatJson Tokens

/-- `std::unordered_map` from strings to strings. -/
structure SnapshotFields where
  items : List (Bytes × Bytes) := []
  nodup : (items.map Prod.fst).Nodup := by decide

/-- The order in which a map is gone through. -/
structure IterationOrder where
  visit : List (Bytes × Bytes) → List (Bytes × Bytes)
  perm : ∀ items, (visit items).Perm items

/-- The line of a snapshot. -/
def snapshotEntry (nowMs : UInt64) (event : Bytes) (fields : List (Bytes × Bytes)) : Bytes :=
  text "\x7b\"ts\":" ++ decimal nowMs.toNat ++ text ",\"event\":\"" ++ event ++ text "\"" ++
    fields.flatMap (fun field => text ",\"" ++ field.1 ++ text "\":\"" ++ field.2 ++ text "\"") ++ text "\x7d"

/-- `while (lines.size() > max_keep) lines.pop_front()`. -/
def popFront (maxKeep : Nat) : List Bytes → List Bytes
  | [] => []
  | line :: lines => if maxKeep < lines.length + 1 then popFront maxKeep lines else line :: lines

/-- The fields of a snapshot of an envelope. -/
def snapshotFields : Option MessageEnvelope → SnapshotFields
  | none => {}
  | some envelope =>
    { items := [(text "topic", envelope.topic), (text "source", envelope.source), (text "trace_id", envelope.traceId),
        (text "sequence", decimal envelope.sequence.toNat)]
      nodup := by
        simp only [List.map_cons, List.map_nil]
        decide }

/-- A call of `RecordSnapshot` or `RecordSnapshotWithFields`, and the time it reads. -/
inductive SnapshotCall
  | recordSnapshot (nowMs : UInt64) (event : Bytes) (envelope : Option MessageEnvelope)
  | recordSnapshotWithFields (nowMs : UInt64) (event : Bytes) (fields : SnapshotFields)

section
-- `canOpen` are the paths that can be opened for writing
variable (order : IterationOrder) (canOpen : Bytes → Bool) (path : Bytes) (limit : UInt32)

/-- What `RecordSnapshotWithFields` makes of the file, if there is one. -/
def recordSnapshotWithFields (nowMs : UInt64) (event : Bytes) (fields : SnapshotFields) (file : Option Bytes) :
    Option Bytes :=
  if path = [] then file
  else
    let lines := (getLines (file.getD [])).filter fun line => line ≠ []
    let lines := popFront (max 1 limit.toNat) (lines ++ [snapshotEntry nowMs event (order.visit fields.items)])
    if canOpen path then some (unlines lines) else file

def recordSnapshot (nowMs : UInt64) (event : Bytes) (envelope : Option MessageEnvelope) (file : Option Bytes) :
    Option Bytes :=
  recordSnapshotWithFields order canOpen path limit nowMs event (snapshotFields envelope) file

def SnapshotCall.apply (file : Option Bytes) : SnapshotCall → Option Bytes
  | .recordSnapshot nowMs event envelope =>
    VehicleBridge.recordSnapshot order canOpen path limit nowMs event envelope file
  | .recordSnapshotWithFields nowMs event fields =>
    VehicleBridge.recordSnapshotWithFields order canOpen path limit nowMs event fields file

/-- The file after a sequence of calls. -/
def recordAll (calls : List SnapshotCall) (file : Option Bytes) : Option Bytes :=
  calls.foldl (SnapshotCall.apply order canOpen path limit) file

end

namespace SnapshotCall

def nowMs : SnapshotCall → UInt64
  | .recordSnapshot nowMs _ _ => nowMs
  | .recordSnapshotWithFields nowMs _ _ => nowMs

def event : SnapshotCall → Bytes
  | .recordSnapshot _ event _ => event
  | .recordSnapshotWithFields _ event _ => event

def fields : SnapshotCall → SnapshotFields
  | .recordSnapshot _ _ envelope => snapshotFields envelope
  | .recordSnapshotWithFields _ _ fields => fields

def entry (order : IterationOrder) (call : SnapshotCall) : Bytes :=
  snapshotEntry call.nowMs call.event (order.visit call.fields.items)

/-- What a snapshot has to say, as the members of an object; the time comes first, then the event. -/
def members (call : SnapshotCall) (items : List (Bytes × Bytes)) : List Member :=
  (text "ts", .number call.nowMs.toNat) :: (text "event", .string call.event) ::
    items.map fun field => (field.1, .string field.2)

/-- The line is a JSON object with the time, the event and the fields of the call, in any order. -/
def ParsesBack (call : SnapshotCall) (line : Bytes) : Prop :=
  ∃ read, parseObject line = some read ∧ read.Perm (call.members call.fields.items)

/-- No text of the call has a quote, a backslash or a control character in it or is no UTF-8, and no field has the name
of one of the other members. -/
structure IsPlain (call : SnapshotCall) : Prop where
  event : Plain jsonString call.event
  fields : ∀ field ∈ call.fields.items, Plain jsonString field.1 ∧ Plain jsonString field.2
  names : ∀ field ∈ call.fields.items, field.1 ≠ text "ts" ∧ field.1 ≠ text "event"

end SnapshotCall

instance (call : SnapshotCall) : Decidable call.IsPlain :=
  decidable_of_iff (Plain jsonString call.event ∧
    (∀ field ∈ call.fields.items, Plain jsonString field.1 ∧ Plain jsonString field.2) ∧
    ∀ field ∈ call.fields.items, field.1 ≠ text "ts" ∧ field.1 ≠ text "event")
    ⟨fun h => ⟨h.1, h.2.1, h.2.2⟩, fun h => ⟨h.event, h.fields, h.names⟩⟩

/-- The file holds the last of the calls, a line for each. -/
structure ShowsLast (limit : UInt32) (calls : List SnapshotCall) (file : Option Bytes) : Prop where
  length : (getLines (file.getD [])).length ≤ max 1 limit.toNat
  lines : List.Forall₂ SnapshotCall.ParsesBack (calls.rtake (max 1 limit.toNat)) (getLines (file.getD []))

/-! ### One line -/

section
variable {order : IterationOrder} {call : SnapshotCall}

private theorem SnapshotCall.entry_eq (order : IterationOrder) (call : SnapshotCall) :
    call.entry order = renderObject (text "ts", .number call.nowMs.toNat)
      ((text "event", .string call.event) ::
        (order.visit call.fields.items).map fun field => (field.1, .string field.2)) := by
  have hopen : text "\x7b\"ts\":" = kOpen :: kQuote :: text "ts" ++ [kQuote, kColon] := by decide
  have hevent : text ",\"event\":\"" = kComma :: kQuote :: text "event" ++ [kQuote, kColon, kQuote] := by decide
  have hname : text ",\"" = [kComma, kQuote] := by decide
  have hvalue : text "\":\"" = [kQuote, kColon, kQuote] := by decide
  have hquote : text "\"" = [kQuote] := by decide
  have hclose : text "\x7d" = [kClose] := by decide
  simp [entry, snapshotEntry, renderObject, renderMember, Value.render, List.flatMap_map, hopen, hevent, hname, hvalue,
    hquote, hclose]

private theorem plain_ts : Plain jsonString (text "ts") := by decide

private theorem plain_event : Plain jsonString (text "event") := by decide

private theorem SnapshotCall.isPlain_of_mem {x : Member} (h : call.IsPlain)
    (hx : x ∈ call.members (order.visit call.fields.items)) : FlatJson.IsPlain x := by
  rcases List.mem_cons.1 hx with rfl | hx
  · exact ⟨plain_ts, trivial⟩
  rcases List.mem_cons.1 hx with rfl | hx
  · exact ⟨plain_event, h.event⟩
  · obtain ⟨field, hfield, rfl⟩ := List.mem_map.1 hx
    exact h.fields field ((order.perm call.fields.items).mem_iff.1 hfield)

/-- The line of a call says what it has to exactly where the call is plain. -/
private theorem SnapshotCall.parsesBack_entry_iff : call.ParsesBack (call.entry order) ↔ call.IsPlain := by
  have hperm := order.perm call.fields.items
  have hmembers : (call.members (order.visit call.fields.items)).Perm (call.members call.fields.items) :=
    ((hperm.map _).cons _).cons _
  have hread : call.ParsesBack (call.entry order) ↔
      ∃ read, parseObject (call.entry order) = some read ∧
        read.Perm (call.members (order.visit call.fields.items)) := by
    constructor
    · rintro ⟨read, hread, h⟩
      exact ⟨read, hread, h.trans hmembers.symm⟩
    · rintro ⟨read, hread, h⟩
      exact ⟨read, hread, h.trans hmembers⟩
  rw [hread, SnapshotCall.entry_eq]
  refine (parseObject_render_perm_iff _ _).trans ?_
  constructor
  · rintro ⟨hplain, hnames⟩
    have hmember {field : Bytes × Bytes} (hfield : field ∈ call.fields.items) :
        (field.1, Value.string field.2) ∈ (order.visit call.fields.items).map fun f => (f.1, Value.string f.2) :=
      List.mem_map_of_mem (hperm.mem_iff.2 hfield)
    have hname {field : Bytes × Bytes} (hfield : field ∈ call.fields.items) :=
      List.mem_map_of_mem (f := Prod.fst) (hmember hfield)
    obtain ⟨hts, hevent, -⟩ := by
      simpa only [List.map_cons, List.nodup_cons] using hnames
    refine ⟨(hplain (text "event", .string call.event) (by simp)).2, fun field hfield => ?_,
      fun field hfield => ⟨?_, ?_⟩⟩
    · exact hplain _ (List.mem_cons_of_mem _ (List.mem_cons_of_mem _ (hmember hfield)))
    · rintro heq
      exact hts (List.mem_cons_of_mem _ (heq ▸ hname hfield))
    · rintro heq
      exact hevent (heq ▸ hname hfield)
  · intro h
    constructor
    · intro x hx
      exact SnapshotCall.isPlain_of_mem h hx
    · have hnodup : ((order.visit call.fields.items).map Prod.fst).Nodup :=
        (hperm.map Prod.fst).nodup_iff.2 call.fields.nodup
      have hne : text "ts" ≠ text "event" := by decide
      simp only [List.map_cons, List.map_map, List.nodup_cons, List.mem_cons, List.mem_map, Function.comp_apply,
        not_or, not_exists, not_and]
      refine ⟨⟨hne, fun field hfield => (h.names field (hperm.mem_iff.1 hfield)).1⟩,
        fun field hfield => (h.names field (hperm.mem_iff.1 hfield)).2, ?_⟩
      exact hnodup

private theorem SnapshotCall.not_mem_entry (h : call.IsPlain) : kLineFeed ∉ call.entry order := by
  rw [SnapshotCall.entry_eq]
  refine not_mem_renderObject (by decide) fun x hx => ?_
  exact SnapshotCall.isPlain_of_mem h hx

private theorem SnapshotCall.entry_ne_nil : call.entry order ≠ [] := by
  rw [SnapshotCall.entry_eq]
  exact List.cons_ne_nil _ _

/-! ### The file -/

private theorem popFront_eq (maxKeep : Nat) (lines : List Bytes) : popFront maxKeep lines = lines.rtake maxKeep := by
  induction lines with
  | nil => simp [popFront]
  | cons line lines ih =>
    rw [popFront]
    split
    · next hlt =>
      rw [ih, List.rtake, List.rtake, List.length_cons, Nat.succ_sub (Nat.le_of_lt_succ hlt), List.drop_succ_cons]
    · next hle =>
      rw [List.rtake, Nat.sub_eq_zero_of_le (by simpa using hle), List.drop_zero]

/-- The last ones of a list that has been cut to the last ones. -/
private theorem rtake_rtake_concat {α : Type*} (l : List α) (x : α) (n : Nat) :
    (l.rtake (n + 1) ++ [x]).rtake (n + 1) = l.rtake n ++ [x] := by
  rw [List.rtake_concat_succ, List.rtake_eq_reverse_take_reverse, List.rtake_eq_reverse_take_reverse,
    List.rtake_eq_reverse_take_reverse, List.reverse_reverse, List.take_take, Nat.min_eq_left (Nat.le_succ n)]

section
variable {canOpen : Bytes → Bool} {path : Bytes} {limit : UInt32} {file : Option Bytes} {calls : List SnapshotCall}

private theorem SnapshotCall.apply_eq (order : IterationOrder) (hpath : path ≠ []) (hopen : canOpen path = true)
    (limit : UInt32) (file : Option Bytes) (call : SnapshotCall) :
    call.apply order canOpen path limit file =
      some (unlines (((getLines (file.getD [])).filter (fun line => line ≠ []) ++ [call.entry order]).rtake
        (max 1 limit.toNat))) := by
  cases call <;>
    simp only [SnapshotCall.apply, VehicleBridge.recordSnapshot, VehicleBridge.recordSnapshotWithFields, if_neg hpath,
      hopen, if_true, popFront_eq] <;> rfl

private theorem rtake_map {α β : Type*} (f : α → β) (l : List α) (n : Nat) : (l.map f).rtake n = (l.rtake n).map f := by
  rw [List.rtake, List.rtake, List.length_map, List.map_drop]

/-- A call behind plain ones leaves the last lines of all of them. -/
private theorem SnapshotCall.apply_concat (hpath : path ≠ []) (hopen : canOpen path = true)
    (hplain : ∀ c ∈ calls, c.IsPlain)
    (hfile : file.getD [] = unlines ((calls.rtake (max 1 limit.toNat)).map (entry order))) (call : SnapshotCall) :
    (call.apply order canOpen path limit file).getD [] =
      unlines (((calls ++ [call]).rtake (max 1 limit.toNat)).map (entry order)) := by
  obtain ⟨n, hn⟩ : ∃ n, max 1 limit.toNat = n + 1 := Nat.exists_eq_add_of_le' (Nat.le_max_left ..)
  have hentry : ∀ line ∈ (calls.rtake (n + 1)).map (entry order), kLineFeed ∉ line ∧ line ≠ [] := by
    intro line hline
    obtain ⟨c, hc, rfl⟩ := List.mem_map.1 hline
    exact ⟨not_mem_entry (hplain c (List.mem_of_mem_drop hc)), entry_ne_nil⟩
  have hlines : (getLines (file.getD [])).filter (fun line => line ≠ []) = (calls.rtake (n + 1)).map (entry order) := by
    rw [hfile, hn, getLines_unlines fun line hline => (hentry line hline).1, List.filter_eq_self]
    exact fun line hline => by simpa using (hentry line hline).2
  rw [apply_eq order hpath hopen, hlines, hn, ← rtake_map, rtake_rtake_concat, rtake_map, List.rtake_concat_succ,
    List.map_append]
  rfl

private theorem recordAll_concat (order : IterationOrder) (canOpen : Bytes → Bool) (path : Bytes) (limit : UInt32)
    (calls : List SnapshotCall) (call : SnapshotCall) (file : Option Bytes) :
    recordAll order canOpen path limit (calls ++ [call]) file =
      call.apply order canOpen path limit (recordAll order canOpen path limit calls file) :=
  List.foldl_concat ..

/-- After plain calls the file holds the last ones of their lines. -/
theorem recordAll_plain (hpath : path ≠ []) (hopen : canOpen path = true) (hempty : file.getD [] = [])
    (hplain : ∀ c ∈ calls, c.IsPlain) :
    (recordAll order canOpen path limit calls file).getD [] =
      unlines ((calls.rtake (max 1 limit.toNat)).map (SnapshotCall.entry order)) := by
  induction calls using List.reverseRecOn with
  | nil =>
    rw [List.rtake_nil]
    exact hempty
  | append_singleton calls call ih =>
    have hbefore : ∀ c ∈ calls, c.IsPlain := fun c hc => hplain c (List.mem_append_left _ hc)
    rw [recordAll_concat]
    exact SnapshotCall.apply_concat hpath hopen hbefore (ih hbefore) call

/-- **One call more**: behind plain calls, the file holds what has been recorded exactly where the call is plain. -/
theorem showsLast_concat_iff (hpath : path ≠ []) (hopen : canOpen path = true) (hempty : file.getD [] = [])
    (hplain : ∀ c ∈ calls, c.IsPlain) (call : SnapshotCall) :
    ShowsLast limit (calls ++ [call]) (recordAll order canOpen path limit (calls ++ [call]) file) ↔ call.IsPlain := by
  have hfile : (recordAll order canOpen path limit (calls ++ [call]) file).getD [] =
      unlines (((calls ++ [call]).rtake (max 1 limit.toNat)).map (SnapshotCall.entry order)) := by
    rw [recordAll_concat]
    exact SnapshotCall.apply_concat hpath hopen hplain (recordAll_plain hpath hopen hempty hplain) call
  obtain ⟨n, hn⟩ : ∃ n, max 1 limit.toNat = n + 1 := Nat.exists_eq_add_of_le' (Nat.le_max_left ..)
  rw [hn, List.rtake_concat_succ] at hfile
  have hlast : ∀ c ∈ calls.rtake n, c.IsPlain := fun c hc => hplain c (List.mem_of_mem_drop hc)
  -- without line feeds in them, the lines are those that have been written
  have hlines (hentries : ∀ line ∈ (calls.rtake n ++ [call]).map (SnapshotCall.entry order), kLineFeed ∉ line) :
      getLines ((recordAll order canOpen path limit (calls ++ [call]) file).getD []) =
        (calls.rtake n ++ [call]).map (SnapshotCall.entry order) := by
    rw [hfile]
    exact getLines_unlines hentries
  constructor
  · intro hshows
    have hlength := hshows.lines.length_eq
    rw [hn, List.rtake_concat_succ, hfile, ← List.length_map (f := SnapshotCall.entry order)] at hlength
    have hread := hshows.lines
    rw [hn, List.rtake_concat_succ, hlines (not_mem_of_length_getLines hlength.symm), List.forall₂_map_right_iff,
      List.forall₂_same] at hread
    exact SnapshotCall.parsesBack_entry_iff.1 (hread call (List.mem_append_right _ (List.mem_singleton_self call)))
  · intro hcall
    have hall : ∀ c ∈ calls.rtake n ++ [call], c.IsPlain := by
      intro c hc
      rcases List.mem_append.1 hc with hc | hc
      · exact hlast c hc
      · rw [List.mem_singleton.1 hc]
        exact hcall
    have hentry := hlines fun line hline => by
      obtain ⟨c, hc, rfl⟩ := List.mem_map.1 hline
      exact SnapshotCall.not_mem_entry (hall c hc)
    constructor
    · rw [hentry, hn, List.length_map, List.length_append, List.length_singleton, List.rtake, List.length_drop]
      omega
    · rw [hentry, hn, List.rtake_concat_succ, List.forall₂_map_right_iff, List.forall₂_same]
      exact fun c hc => SnapshotCall.parsesBack_entry_iff.2 (hall c hc)

/-- The file holds plain calls, whether or not there are any. -/
theorem showsLast_of_plain (hpath : path ≠ []) (hopen : canOpen path = true) (hempty : file.getD [] = [])
    (hplain : ∀ c ∈ calls, c.IsPlain) : ShowsLast limit calls (recordAll order canOpen path limit calls file) := by
  rcases List.eq_nil_or_concat calls with rfl | ⟨before, call, rfl⟩
  · constructor
    · rw [recordAll, List.foldl_nil, hempty]
      exact Nat.zero_le _
    · rw [List.rtake_nil, recordAll, List.foldl_nil, hempty]
      exact .nil
  · rw [List.concat_eq_append] at hplain ⊢
    exact (showsLast_concat_iff hpath hopen hempty (fun c hc => hplain c (List.mem_append_left _ hc)) call).2
      (hplain call (List.mem_append_right _ (List.mem_singleton_self call)))

/-- **Snapshots are the last events.** From an empty or absent file on, the file holds after each call of a sequence the
last calls up to then, a JSON line for each, if and only if all the calls are plain. -/
theorem snapshots_last_iff (order : IterationOrder) (limit : UInt32) (calls : List SnapshotCall)
    (hpath : path ≠ []) (hopen : canOpen path = true) (hempty : file.getD [] = []) :
    (∀ done, done <+: calls → ShowsLast limit done (recordAll order canOpen path limit done file)) ↔
      ∀ call ∈ calls, call.IsPlain := by
  constructor
  · intro hshows
    have hprefix : ∀ done, done <+: calls → ∀ c ∈ done, c.IsPlain := by
      intro done
      induction done using List.reverseRecOn with
      | nil => exact fun _ => nofun
      | append_singleton done call ih =>
        intro hdone c hc
        have hbefore := ih ((List.prefix_append done [call]).trans hdone)
        rcases List.mem_append.1 hc with hc | hc
        · exact hbefore c hc
        · rw [List.mem_singleton.1 hc]
          exact (showsLast_concat_iff hpath hopen hempty hbefore call).1 (hshows _ hdone)
    exact hprefix calls (List.prefix_refl calls)
  · intro hplain done hdone
    exact showsLast_of_plain hpath hopen hempty fun c hc => hplain c (hdone.subset hc)

end

end

/-- Maps that are gone through in the order of their items. -/
def itemOrder : IterationOrder := ⟨id, fun _ => .refl _⟩

/-- A call for a message skipped by the canary, and one with a field of its own. -/
def plainCalls : List SnapshotCall :=
  [.recordSnapshot 1 (text "canary_skip") (some { topic := text "snap.topic", source := text "vehicle" }),
    .recordSnapshotWithFields 2 (text "high_risk_config_change") { items := [(text "score", text "90")] }]

/-- With a limit of one line the second call drops the first one's. -/
theorem snapshots_last_plain :
    ShowsLast 1 plainCalls (recordAll itemOrder (fun _ => true) (text "snapshots.jsonl") 1 plainCalls none) :=
  (snapshots_last_iff itemOrder 1 plainCalls (by decide) rfl rfl).2 (by decide) plainCalls (List.prefix_refl _)

/-- A call for a message with a quote in its topic. -/
def quotedCall : SnapshotCall :=
  .recordSnapshot 1 (text "canary_skip") (some { topic := text "snap\"topic", source := text "vehicle" })

theorem snapshots_not_last : ¬ ∀ (order : IterationOrder) (canOpen : Bytes → Bool) (path : Bytes) (limit : UInt32)
    (calls : List SnapshotCall) (file : Option Bytes), path ≠ [] → canOpen path = true → file.getD [] = [] →
      ∀ done, done <+: calls → ShowsLast limit done (recordAll order canOpen path limit done file) := by
  intro h
  have hshows := h itemOrder (fun _ => true) (text "snapshots.jsonl") 3 ([] ++ [quotedCall]) none (by decide) rfl rfl _
    (List.prefix_refl _)
  have hnone : ∀ call ∈ ([] : List SnapshotCall), call.IsPlain := nofun
  exact absurd ((showsLast_concat_iff (by decide) rfl rfl hnone quotedCall).1 hshows) (by decide)

end VehicleBridge
