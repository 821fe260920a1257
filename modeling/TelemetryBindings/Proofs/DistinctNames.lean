import TelemetryBindings.Proofs.DeclaredNames
import TelemetryBindings.Proofs.GroupOutcome
import TelemetryBindings.Proofs.WellFormed

/-!
# Declarations of a unit do not clash

Names inside a unit are compared in camel case, while some targets capitalise the name of an
instrument to name its enum. Both spellings of an ASCII name have the same words, and camel case
never begins with a capital, so that two names become one in either spelling or in neither.
-/
namespace TelemetryBindings

open Identifier

namespace Text

theorem toLower_of_mem_head?_camelChars {name : List Char} (hascii : ∀ c ∈ name, c.toNat < 0x80) :
    ∀ c ∈ (camelChars name).head?, c.toLower = c := by
  intro c hc
  rw [head?_camelChars hascii] at hc
  obtain ⟨d, -, rfl⟩ := Option.map_eq_some_iff.mp hc
  exact Char.toLower_toLower_eq_toLower d

/-- Raising the first letter loses nothing if it was no capital. -/
theorem eq_of_raise_eq {l r : List Char} (hl : ∀ c ∈ l.head?, c.toLower = c)
    (hr : ∀ c ∈ r.head?, c.toLower = c) (h : raise l = raise r) : l = r := by
  match l, r with
  | [], [] => rfl
  | [], _ :: _ => cases h
  | _ :: _, [] => cases h
  | c :: cs, d :: ds =>
    obtain ⟨hhead, rfl⟩ := List.cons_eq_cons.mp h
    have hsmall : c = d := by
      rw [← hl c rfl, ← hr d rfl, ← Char.toLower_toUpper_eq_toLower c, hhead,
        Char.toLower_toUpper_eq_toLower]
    rw [hsmall]

/-- Names that capitalising makes equal are equal in camel case already. -/
theorem pascal_eq_iff {a b : String} (ha : ∀ c ∈ a.toList, c.toNat < 0x80)
    (hb : ∀ c ∈ b.toList, c.toNat < 0x80) : pascal a = pascal b ↔ camel a = camel b := by
  simp only [pascal, camel, String.ofList_inj, pascalChars_eq_raise ha, pascalChars_eq_raise hb]
  exact ⟨eq_of_raise_eq (toLower_of_mem_head?_camelChars ha) (toLower_of_mem_head?_camelChars hb),
    congrArg raise⟩

end Text

namespace Instrument

/-- The ending of an enum name can be told from the name before it. -/
theorem append_enumSuffix_inj {i j : Instrument} {a b : String}
    (h : a ++ i.enumSuffix = b ++ j.enumSuffix) : a = b := by
  -- One ending closes in `ys` and the other in `es`, so that they are never mixed up.
  have hlast := congrArg (fun s : String => s.toList.reverse) h
  cases i <;> cases j
  case metric.metric | ping.ping => exact (String.append_left_inj _).mp h
  case metric.ping | ping.metric => simp [enumSuffix] at hlast

variable {p : Policy} {i j : Instrument}

theorem identifier_eq_of_kotlinEnumName (h : Kotlin.enumName i = Kotlin.enumName j) :
    i.identifier = j.identifier := append_enumSuffix_inj h

theorem Admitted.identifier_eq_of_swiftEnumName (hi : i.Admitted p) (hj : j.Admitted p)
    (h : Swift.enumName i = Swift.enumName j) : i.identifier = j.identifier :=
  (Text.pascal_eq_iff hi.plain_name.ascii hj.plain_name.ascii).mp (append_enumSuffix_inj h)

def KeysDistinct (i : Instrument) : Prop :=
  ∀ keys, i.keys? = some keys → (keys.map Text.camel).Nodup

end Instrument

theorem keysDistinct_instrumentsOf {p : Policy} {documents : List SourceDocument}
    (hf : ∀ d ∈ documents, d.Flawless p) : ∀ i ∈ instrumentsOf p documents, i.KeysDistinct := by
  refine forall_instrumentsOf hf (fun i hi => ?_) (fun t m _ hproblems hm => ?_)
    fun e q hproblems hq => ?_
  · cases i <;> exact hi
  · intro keys hkeys
    obtain ⟨d, v, -, hv, hgives⟩ := givesMetric_of_readMetric hproblems hm
    obtain ⟨extraKeys, htype, rfl⟩ := Instrument.keys?_metric_eq_some hkeys
    exact Definition.nodup_camel_keyedTexts (hgives.extraKeys_eq hv htype)
  · rintro _ ⟨⟩
    obtain ⟨d, -, hgives⟩ := givesPing_of_readPing hproblems hq
    exact Definition.nodup_camel_keyedTexts hgives.reasons

/-- Nothing is declared twice in the container of the unit or in one of its enums, whatever spelling
a target has for enums and their constants. Instruments without an enum count with the name that it
would have. -/
structure OutputUnit.NamesApart (u : OutputUnit) : Prop where
  properties : (u.instruments.map (·.identifier)).Nodup
  kotlinEnums : (u.instruments.map Kotlin.enumName).Nodup
  swiftEnums : (u.instruments.map Swift.enumName).Nodup
  kotlinConstants : ∀ i ∈ u.instruments, ∀ keys, i.keys? = some keys → keys.Nodup
  swiftCases : ∀ i ∈ u.instruments, ∀ keys, i.keys? = some keys → (keys.map Text.camel).Nodup

/-- Values are distinct if others are that are equal where they are. -/
theorem nodup_map_of_eq {α β γ : Type} {f : α → β} {g : α → γ} {l : List α} (h : (l.map f).Nodup)
    (hfg : ∀ a ∈ l, ∀ b ∈ l, g a = g b → f a = f b) : (l.map g).Nodup := by
  rw [List.Nodup, List.pairwise_map] at h ⊢
  exact h.imp_of_mem fun ha hb hne heq => hne (hfg _ ha _ hb heq)

/-- In every unit of a model that was built and divided, no two declarations clash. -/
theorem namesApart_of_group {p : Policy} {documents : List SourceDocument} {model : Model}
    {units : List OutputUnit} (h : buildModel p documents = .ok model)
    (hgroup : group model = .ok units) : ∀ u ∈ units, u.NamesApart := by
  obtain ⟨ha, rfl⟩ := buildModel_eq_ok_iff.mp h
  obtain ⟨hgroupable, rfl⟩ := group_eq_ok_iff.mp hgroup
  have hf := (acceptable_findingsOf_iff.mp ha).1
  intro u hu
  have hmem : ∀ i ∈ u.instruments, i ∈ instrumentsOf p documents := by
    obtain ⟨j, -, rfl⟩ := mem_partition.mp hu
    exact fun i hi => (List.mem_filter.mp hi).1
  have hadmitted := fun i hi => admitted_instrumentsOf hf i (hmem i hi)
  have hproperties := hgroupable.names u hu
  refine ⟨hproperties, ?_, ?_, ?_, ?_⟩
  · exact nodup_map_of_eq hproperties fun i _ j _ =>
      Instrument.identifier_eq_of_kotlinEnumName
  · exact nodup_map_of_eq hproperties fun i hi j hj =>
      (hadmitted i hi).identifier_eq_of_swiftEnumName (hadmitted j hj)
  · exact fun i hi keys hkeys => (keysDistinct_instrumentsOf hf i (hmem i hi) keys hkeys).of_map
  · exact fun i hi => keysDistinct_instrumentsOf hf i (hmem i hi)

/-- Two events of one category whose names have the same letters, one of them with extra keys for
which the same holds, and a ping. -/
def tabEventDocuments : List SourceDocument :=
  [.ofEntries "m.yaml" .metrics [("tabs", .mapping [
      ("open_tab", .mapping [("type", .string "event"), ("description", .string "Opened."),
        ("bugs", .list [.integer 1]), ("notification_emails", .list [.string "a@example.com"]),
        ("expires", .string "never"),
        ("extra_keys", .mapping [("tab_id", .mapping [("description", .string "Which.")]),
          ("tabid", .mapping [("description", .string "Which, as before.")])])]),
      ("opentab", .mapping [("type", .string "event"),
        ("description", .string "Opened, as before."), ("bugs", .list [.integer 1]),
        ("notification_emails", .list [.string "a@example.com"]),
        ("expires", .string "never")])])],
    .ofEntries "p.yaml" .pings [("crash", samplePing "Crashes.")]]

theorem namesApart_of_group_tabs :
    ∃ model units, buildModel ⟨{}, none⟩ tabEventDocuments = .ok model ∧
      group model = .ok units ∧ (∀ u ∈ units, u.NamesApart) ∧
      units.map (fun u => u.instruments.map Swift.enumName) =
        [["CrashReasonCodes"], ["OpenTabKeys", "OpentabKeys"]] := by
  have hnames : ((buildModel ⟨{}, none⟩ tabEventDocuments).toOption.bind fun model =>
      (group model).toOption.map fun units =>
        units.map fun u => u.instruments.map Swift.enumName) =
      some [["CrashReasonCodes"], ["OpenTabKeys", "OpentabKeys"]] := by
    set_option maxRecDepth 4000 in decide
  cases hmodel : buildModel ⟨{}, none⟩ tabEventDocuments with
  | error errors => simp [hmodel, Except.toOption] at hnames
  | ok model =>
    cases hunits : group model with
    | error cause => simp [hmodel, hunits, Except.toOption] at hnames
    | ok units =>
      refine ⟨model, units, rfl, hunits, namesApart_of_group hmodel hunits, ?_⟩
      simpa [hmodel, hunits, Except.toOption] using hnames

end TelemetryBindings
