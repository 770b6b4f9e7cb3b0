import Mathlib.Data.List.Pairwise
import VehicleBridge.Interconnect.PrometheusExport

/-!
# The page of the Prometheus export

A page is read line by line.  It is to give one sample for each line that was meant, no two of one series, and for the
lines of the topics the topic and its count (`IsExposition`).  A topic is read back only if it is plain
(`GivenBack.plain`), and the topic `*` belongs to the series of the counter of the same name.  Nothing else can go wrong
(`isExposition_iff`).
-/

namespace VehicleBridge

open ByteText LineText Exposition Tokens

/-- The sample tells what the line was meant to tell: where the line is about a topic, the topic and its count. -/
def GivenBack (e : Emission) (sample : Sample) : Prop :=
  match e.1 with
  | .topic _ topic => sample.labels.lookup (text "topic") = some topic ∧ sample.value = e.2
  | _ => True

/-- The lines of the page are samples, one for each emission, and no two of one series. -/
def IsExposition (es : List Emission) (page : Bytes) : Prop :=
  ∃ samples, (getLines page).map parseSample = samples.map some ∧ List.Forall₂ GivenBack es samples ∧
    samples.Pairwise fun a b => ¬ a.SameSeries b

/-! ### One line -/

/-- What an emission is when it is read back. -/
def Emission.sample (ts : UInt64) (e : Emission) : Sample :=
  { name := e.1.name
    labels := (text "topic", e.1.topicLabel) :: e.1.labels
    value := e.2
    timestamp := some ts.toNat }

private theorem plain_all : Plain labelString (text "all") := by decide

private theorem plain_star : Plain labelString (text "*") := by decide

private theorem plain_channelToLabel (channel : ChannelType) : Plain labelString (channelToLabel channel) := by
  cases channel <;> decide

private theorem plain_qosToLabel (qos : DeliveryQoS) : Plain labelString (qosToLabel qos) := by
  cases qos <;> decide

private theorem labelNames_valid :
    ∀ name ∈ [text "topic", text "channel", text "qos", text "endpoint"], IsName isLabelChar name := by
  decide

/-- All labels have names, and the values of all but the topic are plain. -/
private theorem Series.labels_valid (s : Series) : ∀ l ∈ s.labels, IsName isLabelChar l.1 ∧ Plain labelString l.2 := by
  have hchannel : Plain labelString s.channelLabel := by
    cases s with
    | channel name channel => exact plain_channelToLabel channel
    | _ => exact plain_all
  have hqos : Plain labelString s.qosLabel := by
    cases s with
    | qos name qos => exact plain_qosToLabel qos
    | _ => exact plain_all
  have hendpoint : Plain labelString (text "bridge") := by decide
  intro l hl
  simp only [Series.labels, List.mem_cons, List.not_mem_nil, or_false] at hl
  rcases hl with rfl | rfl | rfl
  · exact ⟨labelNames_valid _ (by simp), hchannel⟩
  · exact ⟨labelNames_valid _ (by simp), hqos⟩
  · exact ⟨labelNames_valid _ (by simp), hendpoint⟩

private theorem Series.allLabels_valid {s : Series} (htopic : Plain labelString s.topicLabel) :
    ∀ l ∈ (text "topic", s.topicLabel) :: s.labels, IsName isLabelChar l.1 ∧ Plain labelString l.2 := by
  intro l hl
  rcases List.mem_cons.1 hl with rfl | hl
  · exact ⟨labelNames_valid _ List.mem_cons_self, htopic⟩
  · exact s.labels_valid l hl

private theorem Series.labels_nodup (s : Series) : (((text "topic", s.topicLabel) :: s.labels).map Prod.fst).Nodup := by
  simp only [Series.labels, List.map_cons, List.map_nil]
  decide

section
variable {ts : UInt64} {e : Emission}

/-- An emission with a plain topic is read back. -/
private theorem Emission.parse_line (hname : IsName isNameChar e.1.name) (htopic : Plain labelString e.1.topicLabel) :
    parseSample (e.line ts) = some (e.sample ts) :=
  parseSample_render hname (Series.allLabels_valid htopic) e.1.labels_nodup e.2 ts.toNat

/-- It is one line. -/
private theorem Emission.not_mem_line (hname : IsName isNameChar e.1.name) (htopic : Plain labelString e.1.topicLabel) :
    kLineFeed ∉ e.line ts :=
  not_mem_renderSample hname (Series.allLabels_valid htopic) e.2 ts.toNat

/-- What is read back of an emission has been plain. -/
theorem GivenBack.plain {sample : Sample} (hname : IsName isNameChar e.1.name)
    (hread : parseSample (e.line ts) = some sample) (h : GivenBack e sample) : Plain labelString e.1.topicLabel := by
  obtain ⟨series, value⟩ := e
  cases series with
  | topic name topic =>
    have hline : Emission.line ts (.topic name topic, value) =
        name ++ kOpen :: (text "topic" ++ kEquals :: kQuote :: (topic ++ kQuote ::
          (renderRest (Series.topic name topic).labels ++
            kSpace :: (signedDecimal value ++ kSpace :: decimal ts.toNat)))) := by
      simp [Emission.line, renderSample, renderLabel, Series.name, Series.topicLabel]
    rw [hline] at hread
    exact plain_of_parseSample hname (by decide) hread h.1
  | _ => exact plain_star

private theorem Emission.givenBack_sample (e : Emission) : GivenBack e (e.sample ts) := by
  obtain ⟨series, value⟩ := e
  cases series with
  | topic name topic => exact ⟨by simp [Emission.sample, Series.topicLabel], rfl⟩
  | _ => trivial

end

/-! ### The series of a page -/

private theorem channelToLabel_injective {c c' : ChannelType} (h : channelToLabel c = channelToLabel c') : c = c' := by
  revert h
  cases c <;> cases c' <;> decide

private theorem qosToLabel_injective {q q' : DeliveryQoS} (h : qosToLabel q = qosToLabel q') : q = q' := by
  revert h
  cases q <;> cases q' <;> decide

private theorem channelToLabel_ne_all (c : ChannelType) : channelToLabel c ≠ text "all" := by
  cases c <;> decide

private theorem qosToLabel_ne_all (q : DeliveryQoS) : qosToLabel q ≠ text "all" := by
  cases q <;> decide

/-- The labels tell the series, unless a topic is `*`. -/
private theorem Series.eq_of_labels {s s' : Series} (hs : ∀ name, s ≠ .topic name (text "*"))
    (hs' : ∀ name, s' ≠ .topic name (text "*")) (hname : s.name = s'.name) (htopic : s.topicLabel = s'.topicLabel)
    (hchannel : s.channelLabel = s'.channelLabel) (hqos : s.qosLabel = s'.qosLabel) : s = s' := by
  cases s with
  | total name =>
    cases s' with
    | total => exact congrArg _ hname
    | topic name' topic => exact absurd (congrArg _ htopic.symm) (hs' name')
    | channel name' channel => exact absurd hchannel.symm (channelToLabel_ne_all channel)
    | qos name' qos => exact absurd hqos.symm (qosToLabel_ne_all qos)
  | topic name topic =>
    cases s' with
    | topic => exact congrArg₂ _ hname htopic
    | _ => exact absurd (congrArg _ htopic) (hs name)
  | channel name channel =>
    cases s' with
    | topic name' topic => exact absurd (congrArg _ htopic.symm) (hs' name')
    | channel => exact congrArg₂ _ hname (channelToLabel_injective hchannel)
    | _ => exact absurd hchannel (channelToLabel_ne_all channel)
  | qos name qos =>
    cases s' with
    | topic name' topic => exact absurd (congrArg _ htopic.symm) (hs' name')
    | qos => exact congrArg₂ _ hname (qosToLabel_injective hqos)
    | _ => exact absurd hqos (qosToLabel_ne_all qos)

private theorem Emission.sameSeries_sample {ts : UInt64} {e e' : Emission} :
    (e.sample ts).SameSeries (e'.sample ts) ↔ e.1.name = e'.1.name ∧ e.1.topicLabel = e'.1.topicLabel ∧
      e.1.channelLabel = e'.1.channelLabel ∧ e.1.qosLabel = e'.1.qosLabel := by
  constructor
  · rintro ⟨hname, hlabels⟩
    refine ⟨hname, ?_, ?_, ?_⟩
    · simpa [Emission.sample] using hlabels (text "topic")
    · have hne : (text "channel" == text "topic") = false := by decide
      simpa [Emission.sample, Series.labels, List.lookup_cons, hne] using hlabels (text "channel")
    · have hne : (text "qos" == text "topic") = false ∧ (text "qos" == text "channel") = false := by decide
      simpa [Emission.sample, Series.labels, List.lookup_cons, hne] using hlabels (text "qos")
  · rintro ⟨hname, htopic, hchannel, hqos⟩
    refine ⟨hname, fun label => ?_⟩
    simp only [Emission.sample, Series.labels, htopic, hchannel, hqos]

/-! ### The page -/

section
variable {ts : UInt64} {m : BridgeMetrics} {keys : MetricKeys}

private theorem isName_of_mem_emissions {e : Emission} (he : e ∈ emissions m keys) : IsName isNameChar e.1.name :=
  isName_of_mem_counterNames (name_mem_counterNames he)

private theorem plain_topicLabel_of_mem (h : ∀ topic ∈ keys.topics, Plain labelString topic) {e : Emission}
    (he : e ∈ emissions m keys) : Plain labelString e.1.topicLabel := by
  obtain ⟨series, value⟩ := e
  cases series with
  | topic name topic => exact h topic ((mem_topics_iff m).2 ⟨name, value, he⟩)
  | _ => exact plain_star

/-- The lines of a page with plain topics are read back. -/
theorem getLines_exportPrometheus (h : ∀ topic ∈ keys.topics, Plain labelString topic) :
    (getLines (exportPrometheus ts m keys)).map parseSample =
      ((emissions m keys).map (Emission.sample ts)).map some := by
  have hlines : ∀ line ∈ (emissions m keys).map (Emission.line ts), kLineFeed ∉ line := by
    intro line hline
    obtain ⟨e, he, rfl⟩ := List.mem_map.1 hline
    exact Emission.not_mem_line (isName_of_mem_emissions he) (plain_topicLabel_of_mem h he)
  rw [exportPrometheus_eq, getLines_unlines hlines, List.map_map, List.map_map]
  exact List.map_congr_left fun e he =>
    Emission.parse_line (isName_of_mem_emissions he) (plain_topicLabel_of_mem h he)

/-- What is read of each element of a list, where all of them are read. -/
private theorem exists_of_forall₂ {α β : Type} {f : α → Option β} {R : α → β → Prop} {l : List α} {l' : List β}
    (hread : l.map f = l'.map some) (h : List.Forall₂ R l l') : ∀ a ∈ l, ∃ b, f a = some b ∧ R a b := by
  induction h with
  | nil => exact fun _ ha => absurd ha List.not_mem_nil
  | @cons a b l l' hab _ ih =>
    rw [List.map_cons, List.map_cons, List.cons.injEq] at hread
    intro x hx
    rcases List.mem_cons.1 hx with rfl | hx
    · exact ⟨b, hread.1, hab⟩
    · exact ih hread.2 x hx

/-- Of a page that is an exposition all topics are plain. -/
private theorem plain_of_isExposition (h : IsExposition (emissions m keys) (exportPrometheus ts m keys)) :
    ∀ topic ∈ keys.topics, Plain labelString topic := by
  intro topic htopic
  obtain ⟨samples, hread, hgiven, -⟩ := h
  have hlength : (getLines (exportPrometheus ts m keys)).length = (emissions m keys).length := by
    have hmaps := congrArg List.length hread
    rw [List.length_map, List.length_map] at hmaps
    rw [hmaps, hgiven.length_eq]
  rw [exportPrometheus_eq] at hread hlength
  -- there are as many lines as emissions, so that no line has a line feed in it
  have hlines := not_mem_of_length_getLines (hlength.trans (List.length_map _).symm)
  rw [getLines_unlines hlines, List.map_map] at hread
  obtain ⟨name, value, he⟩ := (mem_topics_iff m).1 htopic
  obtain ⟨sample, hsample, hgives⟩ := exists_of_forall₂ hread hgiven _ he
  exact hgives.plain (isName_of_mem_emissions he) hsample

instance : Std.Symm fun e e' : Emission => ¬ (e.sample ts).SameSeries (e'.sample ts) where
  symm _ _ h h' := h ⟨h'.1.symm, fun label => (h'.2 label).symm⟩

/-- The samples are of different series if and only if no topic is `*`. -/
theorem pairwise_emissions_iff :
    ((emissions m keys).map (Emission.sample ts)).Pairwise (fun a b => ¬ a.SameSeries b) ↔
      text "*" ∉ keys.topics := by
  rw [List.pairwise_map]
  constructor
  · intro h hstar
    obtain ⟨name, value, htopic⟩ := (mem_topics_iff m).1 hstar
    obtain ⟨total, htotal⟩ := total_mem_emissions (name_mem_counterNames htopic)
    exact h.forall htopic htotal nofun (Emission.sameSeries_sample.2 ⟨rfl, rfl, rfl, rfl⟩)
  · intro hstar
    have hne {e : Emission} (he : e ∈ emissions m keys) (name : Bytes) : e.1 ≠ .topic name (text "*") := by
      intro heq
      exact hstar ((mem_topics_iff m).2 ⟨name, e.2, heq ▸ he⟩)
    have hnodup := List.pairwise_map.1 (nodup_series_emissions m keys)
    refine hnodup.imp_of_mem fun he he' hdistinct hsame => hdistinct ?_
    obtain ⟨hname, htopic, hchannel, hqos⟩ := Emission.sameSeries_sample.1 hsame
    exact Series.eq_of_labels (hne he) (hne he') hname htopic hchannel hqos

end

/-- A topic that is read back as it is, and that no line of a counter has. -/
def Exportable (topic : Bytes) : Prop := Plain labelString topic ∧ topic ≠ text "*"

instance (topic : Bytes) : Decidable (Exportable topic) := inferInstanceAs (Decidable (_ ∧ _))

/-- A page is an exposition if and only if it is about exportable topics. -/
theorem isExposition_iff (ts : UInt64) (m : BridgeMetrics) (keys : MetricKeys) :
    IsExposition (emissions m keys) (exportPrometheus ts m keys) ↔ ∀ topic ∈ keys.topics, Exportable topic := by
  constructor
  · intro h
    have hplain := plain_of_isExposition h
    obtain ⟨samples, hread, -, hpairwise⟩ := h
    rw [getLines_exportPrometheus hplain] at hread
    rw [← List.map_injective_iff.2 (fun _ _ => Option.some.inj) hread, pairwise_emissions_iff] at hpairwise
    exact fun topic htopic => ⟨hplain topic htopic, fun heq => hpairwise (heq ▸ htopic)⟩
  · intro h
    refine ⟨_, getLines_exportPrometheus fun topic htopic => (h topic htopic).1, ?_, ?_⟩
    · rw [List.forall₂_map_right_iff, List.forall₂_same]
      exact fun e _ => e.givenBack_sample
    · rw [pairwise_emissions_iff]
      exact fun hstar => (h _ hstar).2 rfl

end VehicleBridge
