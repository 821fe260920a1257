import TelemetryBindings.Proofs.CamelCase
import TelemetryBindings.Proofs.PlainNames
import TelemetryBindings.Proofs.Scanning
import TelemetryBindings.Target.Basic

/-!
# Contained declarations

Generated declarations consist of fixed words, punctuation, numbers and checked names. So nothing
that is declared can begin a comment or end one, every bracket that a declaration opens is closed in
it, and every quoted text ends where its notation ends it.
-/
namespace TelemetryBindings

open Identifier Text

namespace Text

theorem starless_of_plain {s : String} (h : Plain s) : Starless s :=
  fun hstar => absurd (h _ hstar) (by decide)

theorem idle_camel {s : String} (h : Plain s) : Idle (camel s) := idle_of_plain (plain_camel h)

theorem idle_pascal {s : String} (h : Plain s) : Idle (pascal s) := idle_of_plain (plain_pascal h)

theorem plain_natToString (n : Nat) : Plain (toString n) := by
  refine plain_of_alphanum fun c hc => ?_
  have hdigit := Nat.isDigit_of_mem_toDigits (by decide) (by decide)
    (show c ∈ Nat.toDigits 10 n by simpa [toString, Nat.repr] using hc)
  simp [Char.isAlphanum, hdigit]

theorem idle_natToString (n : Nat) : Idle (toString n) := idle_of_plain (plain_natToString n)

theorem idle_intToString (i : Int) : Idle (toString i) := by
  cases i with
  | ofNat n => exact idle_natToString n
  | negSucc n => exact idle_append.mpr ⟨by decide, idle_natToString (n + 1)⟩

theorem starless_joinWith {separator : String} (hs : Starless separator) {parts : List String}
    (h : ∀ part ∈ parts, Starless part) : Starless (joinWith separator parts) := by
  match parts with
  | [] => exact starless_empty
  | [part] => exact h part List.mem_cons_self
  | part :: next :: rest =>
    have hrest := starless_joinWith hs fun p hp => h p (List.mem_cons_of_mem part hp)
    rw [joinWith.eq_3 _ _ _ (by simp)]
    exact starless_append.mpr ⟨starless_append.mpr ⟨h part List.mem_cons_self, hs⟩, hrest⟩

theorem starless_indentAll {indent text : String} (hi : Starless indent) (h : Starless text) :
    Starless (indentAll indent text) := by
  refine starless_joinWith (by decide) (List.forall_mem_map.mpr fun line hline => ?_)
  exact starless_append.mpr ⟨hi, starless_lines h line hline⟩

theorem starless_indentContinuation {indent text : String} (hi : Starless indent)
    (h : Starless text) : Starless (indentContinuation indent text) := by
  have hlines := starless_lines h
  rw [indentContinuation]
  cases htext : lines text with
  | nil => exact starless_empty
  | cons first rest =>
    rw [htext, List.forall_mem_cons] at hlines
    refine starless_joinWith (by decide) (List.forall_mem_cons.mpr ⟨hlines.1, ?_⟩)
    exact List.forall_mem_map.mpr fun line hline =>
      starless_append.mpr ⟨hi, hlines.2 line hline⟩

/-- Names are quoted as they are. -/
theorem starless_quote {written : Char → List Char} (hw : ∀ c, isNameChar c → written c = [c])
    {s : String} (h : Plain s) : Starless (quote written s) := by
  have hwritten : s.toList.flatMap written = s.toList := by
    rw [List.flatMap_congr fun c hc => hw c (h c hc)]
    simp
  have hs := starless_of_plain h
  rw [Starless] at hs
  rw [Starless, quote, String.toList_ofList, quoteChars, hwritten]
  simpa using hs

theorem jsonEscape_of_isNameChar {c : Char} (h : isNameChar c) : jsonEscape c = [c] := by
  unfold jsonEscape
  split
  · exact absurd h (by decide)
  · exact absurd h (by decide)
  · exact absurd h (by decide)
  · exact absurd h (by decide)
  · exact absurd h (by decide)
  · exact absurd h (by decide)
  · exact absurd h (by decide)
  · exact if_neg (not_lt.mpr (toNat_of_isNameChar h).1)

theorem plainEscape_of_isNameChar {c : Char} (h : isNameChar c) : plainEscape c = [c] := by
  unfold plainEscape
  split
  · exact absurd h (by decide)
  · exact absurd h (by decide)
  · exact absurd h (by decide)
  · exact absurd h (by decide)
  · exact absurd h (by decide)
  · rfl

theorem templateEscape_of_isNameChar {c : Char} (h : isNameChar c) : templateEscape c = [c] := by
  rw [templateEscape, if_neg, plainEscape_of_isNameChar h]
  rintro rfl
  exact absurd h (by decide)

/-! ### Contained texts -/

/-- The text begins no comment and turns the brackets `before`, which are due first, into
`after`. -/
structure Turns (before after : List Char) (text : String) : Prop where
  starless : Starless text
  takes : Takes before after text

structure Contained (text : String) : Prop where
  starless : Starless text
  closed : Closed text

instance (before after : List Char) (text : String) : Decidable (Turns before after text) :=
  decidable_of_iff (Starless text ∧ Takes before after text)
    ⟨fun h => ⟨h.1, h.2⟩, fun h => ⟨h.1, h.2⟩⟩

instance (text : String) : Decidable (Contained text) :=
  decidable_of_iff (Starless text ∧ Closed text) ⟨fun h => ⟨h.1, h.2⟩, fun h => ⟨h.1, h.2⟩⟩

theorem starless_of_idle {s : String} (h : Idle s) : Starless s :=
  fun hstar => absurd (h _ hstar) (by decide)

theorem contained_of_idle {s : String} (h : Idle s) : Contained s :=
  ⟨starless_of_idle h, closed_of_idle h⟩

theorem Contained.append {a b : String} (ha : Contained a) (hb : Contained b) :
    Contained (a ++ b) :=
  ⟨starless_append.mpr ⟨ha.starless, hb.starless⟩, ha.closed.append hb.closed⟩

/-- What stands before an opening bracket is part of the opening. -/
theorem Contained.opening {after : List Char} {a b : String} (ha : Contained a)
    (hb : Turns [] after b) : Turns [] after (a ++ b) :=
  ⟨starless_append.mpr ⟨ha.starless, hb.starless⟩, Takes.append ha.closed hb.takes⟩

/-- Brackets can stand around a contained text. -/
theorem Contained.between {opening text ending : String} (h : Contained text) (due : List Char)
    (ho : Turns [] due opening) (he : Turns due [] ending) :
    Contained (opening ++ text ++ ending) where
  starless := starless_append.mpr
    ⟨starless_append.mpr ⟨ho.starless, h.starless⟩, he.starless⟩
  closed := (ho.takes.append (h.closed.within due)).append he.takes

theorem contained_joinWith {separator : String} (hs : Contained separator) {parts : List String}
    (h : ∀ part ∈ parts, Contained part) : Contained (joinWith separator parts) :=
  ⟨starless_joinWith hs.starless fun part hpart => (h part hpart).starless,
    closed_joinWith hs.closed fun part hpart => (h part hpart).closed⟩

theorem contained_unlines {ls : List String} (h : ∀ line ∈ ls, Contained line) :
    Contained (unlines ls) :=
  ⟨(code_unlines fun line hline => (h line hline).starless).starless,
    closed_unlines fun line hline => (h line hline).closed⟩

theorem contained_quote {written : Char → List Char} (hw : ∀ c, isNameChar c → written c = [c])
    (hq : StaysQuoted written) {s : String} (h : Plain s) : Contained (quote written s) :=
  ⟨starless_quote hw h, closed_quote hq s⟩

end Text

/-! ### Arguments -/

def Literal.Plain : Literal → Prop
  | .string s => Identifier.Plain s
  | .list items | .set items => ∀ s ∈ items, Identifier.Plain s
  | _ => True

structure Argument.Plain (a : Argument) : Prop where
  name : Identifier.Plain a.name
  value : a.value.Plain

theorem Argument.Plain.of {name : String} {value : Literal} (hn : Identifier.Plain name)
    (hv : value.Plain) : Argument.Plain ⟨name, value⟩ := ⟨hn, hv⟩

structure ContainedPair (e : String × String) : Prop where
  name : Idle e.1
  value : Contained e.2

theorem ContainedPair.of {name value : String} (hn : Idle name) (hv : Contained value) :
    ContainedPair (name, value) := ⟨hn, hv⟩

theorem plain_lifetime (l : Lifetime) : Plain (Vocabulary.word l) := by cases l <;> decide

theorem plain_timeUnit (u : TimeUnit) : Plain (Vocabulary.word u) := by cases u <;> decide

theorem plain_memoryUnit (u : MemoryUnit) : Plain (Vocabulary.word u) := by cases u <;> decide

theorem plain_histogramType (h : HistogramType) : Plain (Vocabulary.word h) := by
  cases h <;> decide

theorem plain_argumentsNamed {m : Metric} (h : m.PlainNames) {name : String} (hn : Plain name) :
    ∀ a ∈ m.argumentsNamed name, a.Plain := by
  simp only [Metric.argumentsNamed, List.forall_mem_cons, List.not_mem_nil, false_imp_iff,
    implies_true, and_true]
  exact ⟨.of (by decide) h.category, .of (by decide) hn,
    .of (by decide) h.stores, .of (by decide) trivial, .of (by decide) trivial⟩

theorem plain_typeArguments (type : MetricType) : ∀ a ∈ type.arguments, a.Plain := by
  cases type <;> simp only [MetricType.arguments, List.forall_mem_cons, List.not_mem_nil,
    false_imp_iff, implies_true, and_true]
  · exact ⟨.of (by decide) trivial, .of (by decide) trivial,
      .of (by decide) trivial, .of (by decide) trivial⟩
  all_goals exact .of (by decide) trivial

theorem plain_metricArguments {m : Metric} (h : m.PlainNames) : ∀ a ∈ m.arguments, a.Plain :=
  List.forall_mem_append.mpr ⟨plain_argumentsNamed h h.name, plain_typeArguments m.type⟩

theorem plain_pingArguments {q : Ping} (h : q.PlainNames) : ∀ a ∈ q.arguments, a.Plain := by
  simp only [Ping.arguments, List.forall_mem_cons, List.not_mem_nil, false_imp_iff,
    implies_true, and_true]
  exact ⟨.of (by decide) h.name, .of (by decide) trivial,
    .of (by decide) trivial, .of (by decide) h.reasons⟩

theorem contained_spellArguments {literal : Literal → String}
    (hl : ∀ l : Literal, l.Plain → Contained (literal l)) {arguments : List Argument}
    (h : ∀ a ∈ arguments, a.Plain) : ∀ e ∈ spellArguments literal arguments, ContainedPair e :=
  List.forall_mem_map.mpr fun a ha => ⟨idle_camel (h a ha).name, hl a.value (h a ha).value⟩

theorem contained_argumentLines {arguments : List (String × String)} {assign indent : String}
    (ha : Idle assign) (hi : Idle indent) (h : ∀ e ∈ arguments, ContainedPair e) :
    Contained (argumentLines arguments assign indent) := by
  have hcomma : Contained ",\n" := by decide
  refine contained_joinWith hcomma (List.forall_mem_map.mpr fun e he => ?_)
  have hbefore : Idle (indent ++ e.1 ++ assign) :=
    idle_append.mpr ⟨idle_append.mpr ⟨hi, (h e he).name⟩, ha⟩
  exact (contained_of_idle hbefore).append (h e he).value

/-- A call with one argument a line. -/
theorem contained_constructed {constructor : String} {arguments : List (String × String)}
    {assign indent : String} (hc : Idle constructor) (ha : Idle assign) (hi : Idle indent)
    (h : ∀ e ∈ arguments, ContainedPair e) :
    Contained (constructor ++ "(\n" ++ argumentLines arguments assign indent ++ "\n)") :=
  (contained_argumentLines ha hi h).between [')']
    ((contained_of_idle hc).opening (by decide)) (by decide)

theorem contained_strings {string : String → String} (hs : ∀ s, Plain s → Contained (string s))
    {items : List String} (h : ∀ s ∈ items, Plain s) :
    Contained (joinWith ", " (items.map string)) :=
  contained_joinWith (contained_of_idle (by decide))
    (List.forall_mem_map.mpr fun s hmem => hs s (h s hmem))

/-! ### Instruments -/

def Instrument.PlainNames : Instrument → Prop
  | .metric m => m.PlainNames
  | .ping q => q.PlainNames

namespace Instrument

variable {i : Instrument}

theorem PlainNames.name (h : i.PlainNames) : Plain i.name := by
  cases i with
  | metric m => exact Metric.PlainNames.name h
  | ping q => exact Ping.PlainNames.name h

theorem PlainNames.arguments (h : i.PlainNames) : ∀ a ∈ i.arguments, a.Plain := by
  cases i with
  | metric m => exact plain_metricArguments h
  | ping q => exact plain_pingArguments h

theorem plain_extraKeyNames {m : Metric} (h : m.PlainNames) {keys : List String}
    (hk : m.extraKeyNames? = some keys) : ∀ key ∈ keys, Plain key := by
  rw [Metric.extraKeyNames?] at hk
  have hnames := h.keys
  split at hk
  · next extraKeys htype =>
    rw [htype] at hnames
    exact Option.some.inj hk ▸ hnames
  · cases hk

theorem PlainNames.keys (h : i.PlainNames) {keys : List String} (hk : i.keys? = some keys) :
    ∀ key ∈ keys, Plain key := by
  cases i with
  | metric m => exact plain_extraKeyNames h hk
  | ping q => exact Option.some.inj hk ▸ Ping.PlainNames.reasons h

theorem PlainNames.enumKeys (h : i.PlainNames) {keys : List String}
    (hk : i.enumKeys? = some keys) : ∀ key ∈ keys, Plain key := by
  rw [enumKeys?] at hk
  split at hk
  · next key rest hkeys => exact Option.some.inj hk ▸ h.keys hkeys
  · cases hk

theorem idle_enumSuffix (i : Instrument) : Idle i.enumSuffix := by
  cases i <;> simp only [enumSuffix] <;> decide

theorem idle_appliedClass {cls enumName : String} (hc : Idle cls) (he : Idle enumName) :
    Idle (i.appliedClass cls enumName) := by
  have hkeyless : Idle i.keylessType := by
    cases i <;> simp only [keylessType] <;> decide
  have hopen : Idle "<" := by decide
  have hclose : Idle ">" := by decide
  rw [appliedClass]
  split
  · simp only [idle_append]
    exact ⟨⟨⟨hc, hopen⟩, hkeyless⟩, hclose⟩
  · simp only [idle_append]
    exact ⟨⟨⟨hc, hopen⟩, he⟩, hclose⟩
  · exact hc

end Instrument

theorem plain_classWord {pingWord : String} (h : Plain pingWord) (v : Variant) :
    Plain (classWord pingWord v) := by
  cases v
  case ping => exact h
  all_goals
    simp only [classWord]
    decide

/-- The names of runtime classes are fixed words. -/
theorem idle_runtimeClass {space pingWord : String} (h : Plain pingWord) (v : Variant) :
    Idle (runtimeClass space pingWord v).name ∧ Idle (runtimeClass space pingWord v).simple := by
  have hword := fun v => idle_of_plain (plain_classWord h v)
  rw [runtimeClass]
  split
  · next inner _ =>
    refine ⟨hword v, ?_⟩
    simp only [QualifiedName.simple, idle_append]
    exact ⟨⟨⟨hword v, by decide⟩, hword inner⟩, by decide⟩
  · exact ⟨hword v, hword v⟩

structure Entry.Contained (e : Entry) : Prop where
  preamble : ∀ block ∈ e.preamble, Text.Contained block
  declaration : Text.Contained e.declaration

theorem Entry.Contained.starless {e : Entry} (h : e.Contained) : e.Starless :=
  ⟨fun block hblock => (h.preamble block hblock).starless, h.declaration.starless⟩

/-! ### Targets -/

namespace JavaScript

theorem contained_string (s : String) (h : Plain s) : Contained (string s) :=
  contained_quote (fun _ => jsonEscape_of_isNameChar) staysQuoted_jsonEscape h

theorem contained_literal (l : Literal) (h : l.Plain) : Contained (literal l) := by
  cases l with
  | bool b => exact contained_of_idle (by cases b <;> decide)
  | int i => exact contained_of_idle (idle_intToString i)
  | string s => exact contained_string s h
  | lifetime l => exact contained_string _ (plain_lifetime l)
  | timeUnit u => exact contained_string _ (plain_timeUnit u)
  | memoryUnit u => exact contained_string _ (plain_memoryUnit u)
  | histogramType t => exact contained_string _ (plain_histogramType t)
  | list items | set items =>
    exact (contained_strings contained_string h).between [']'] (by decide)
      (by decide)

theorem idle_className {v : Variant} {cls : QualifiedName} (h : className v = .ok cls) :
    Idle cls.text := by
  cases v <;> simp only [className, classWord?, Except.ok.injEq, reduceCtorEq] at h <;>
    subst h <;> decide

theorem contained_object {arguments : List Argument} (h : ∀ a ∈ arguments, a.Plain) :
    Contained (object arguments) := by
  have hlines := contained_spellArguments contained_literal h
  exact (contained_argumentLines (by decide) (by decide) hlines).between ['\x7d']
    (by decide) (by decide)

theorem contained_call {i : Instrument} (h : i.PlainNames) {text : String}
    (hcall : call i = .ok text) : Contained text := by
  unfold call at hcall
  cases hcls : className i.variant with
  | error e => simp [hcls, bind, Except.bind] at hcall
  | ok cls =>
    simp only [hcls, bind, Except.bind, pure, Except.pure, Except.ok.injEq] at hcall
    subst hcall
    have hopening : Turns [] [')'] ("new " ++ cls.text ++ "(") := by
      have hfront : Idle ("new " ++ cls.text) := idle_append.mpr ⟨by decide, idle_className hcls⟩
      exact (contained_of_idle hfront).opening (by decide)
    have hwhole : ∀ extra, Contained extra →
        Contained ("new " ++ cls.text ++ "(" ++ object i.arguments ++ extra ++ ")") := by
      intro extra hextra
      have hinside := (contained_object h.arguments).append hextra
      have hending : Turns [')'] [] ")" := by decide
      simpa only [String.append_assoc] using hinside.between [')'] hopening hending
    refine hwhole _ ?_
    cases i with
    | metric m =>
      cases hkeys : m.extraKeyNames? with
      | none =>
        simp only [hkeys]
        exact contained_of_idle idle_empty
      | some keys =>
        have hcomma : Idle ", " := by decide
        simp only [hkeys]
        exact (contained_of_idle hcomma).append
          (contained_literal (.list keys) (Instrument.plain_extraKeyNames h hkeys))
    | ping q => exact contained_of_idle idle_empty

theorem contained_entry {i : Instrument} (h : i.PlainNames) {e : Entry} (he : entry i = .ok e) :
    e.Contained := by
  rw [entry] at he
  cases hcall : call i with
  | error e => simp [hcall, bind, Except.bind] at he
  | ok text =>
    simp only [hcall, bind, Except.bind, pure, Except.pure, Except.ok.injEq] at he
    subst he
    have hname : Idle (i.identifier ++ ": ") := idle_append.mpr ⟨idle_camel h.name, by decide⟩
    exact ⟨fun block hblock => absurd hblock List.not_mem_nil,
      (contained_of_idle hname).append (contained_call h hcall)⟩

end JavaScript

namespace Kotlin

variable {k : Kotlin}

theorem contained_string (s : String) (h : Plain s) : Contained (string s) :=
  contained_quote (fun _ => templateEscape_of_isNameChar) staysQuoted_templateEscape h

theorem contained_literal (l : Literal) (h : l.Plain) : Contained (literal l) := by
  have hword : ∀ {name word : String}, Idle name → Plain word → Contained (name ++ pascal word) :=
    fun hn hw => contained_of_idle (idle_append.mpr ⟨hn, idle_pascal hw⟩)
  cases l with
  | bool b => exact contained_of_idle (by cases b <;> decide)
  | int i => exact contained_of_idle (idle_append.mpr ⟨idle_intToString i, by decide⟩)
  | string s => exact contained_string s h
  | lifetime l => exact hword (by decide) (plain_lifetime l)
  | timeUnit u => exact hword (by decide) (plain_timeUnit u)
  | memoryUnit u => exact hword (by decide) (plain_memoryUnit u)
  | histogramType t => exact hword (by decide) (plain_histogramType t)
  | list items | set items =>
    exact (contained_strings contained_string h).between [')'] (by decide)
      (by decide)

theorem contained_callWith {constructor : String} {arguments : List Argument}
    {extra : List (String × String)} (hc : Idle constructor) (ha : ∀ a ∈ arguments, a.Plain)
    (he : ∀ e ∈ extra, ContainedPair e) : Contained (callWith constructor arguments extra) :=
  contained_constructed hc (by decide) (by decide)
    (List.forall_mem_append.mpr ⟨contained_spellArguments contained_literal ha, he⟩)

/-- A call ends in its closing bracket. -/
theorem getLast?_callWith (constructor : String) (arguments : List Argument)
    (extra : List (String × String)) :
    (callWith constructor arguments extra).toList.getLast? = some ')' := by
  rw [callWith, String.toList_append, List.getLast?_append]
  rfl

theorem idle_className (v : Variant) :
    Idle (k.className v).name ∧ Idle (k.className v).simple := by
  have hping : Plain "PingType" := by decide
  rw [className]
  exact idle_runtimeClass hping v

theorem contained_subMetricCall {m : Metric} (h : m.PlainNames) (inner : LabeledInner) :
    Contained (indentContinuation indent (k.subMetricCall m inner)) := by
  have hsuffix : Plain "_label" := by decide
  have hlabel : Plain (m.name ++ "_label") := by
    rw [Plain, String.toList_append, List.forall_mem_append]
    exact ⟨h.name, hsuffix⟩
  have hcall : Contained (k.subMetricCall m inner) :=
    contained_callWith (idle_className _).1 (plain_argumentsNamed h hlabel)
      fun e he => absurd he List.not_mem_nil
  have hlast : (k.subMetricCall m inner).toList.getLast? ≠ some '\n' := by
    rw [subMetricCall, getLast?_callWith]
    decide
  exact ⟨starless_indentContinuation (by decide) hcall.starless,
    closed_indentContinuation (by decide) hcall.closed hlast⟩

theorem contained_extraArguments {m : Metric} (h : m.PlainNames) :
    ∀ e ∈ k.extraArguments m, ContainedPair e := by
  have hnames := h.keys
  rw [extraArguments]
  split
  · next extraKeys htype =>
    rw [htype] at hnames
    exact List.forall_mem_singleton.mpr (.of (by decide) (contained_literal (.list _) hnames))
  · next inner labels htype =>
    rw [htype] at hnames
    refine List.forall_mem_append.mpr ⟨?_, List.forall_mem_singleton.mpr (.of (by decide)
      (contained_subMetricCall h inner))⟩
    cases labels with
    | none => exact fun e he => absurd he List.not_mem_nil
    | some labels =>
      exact List.forall_mem_singleton.mpr (.of (by decide) (contained_literal (.set _) hnames))
  · exact fun e he => absurd he List.not_mem_nil

theorem contained_call {i : Instrument} (h : i.PlainNames) : Contained (k.call i) := by
  cases i with
  | metric m =>
    exact contained_callWith (idle_className _).1 (plain_metricArguments h)
      (contained_extraArguments h)
  | ping q =>
    exact contained_callWith (idle_className _).1 (plain_pingArguments h)
      fun e he => absurd he List.not_mem_nil

theorem getLast?_call (i : Instrument) : (k.call i).toList.getLast? = some ')' := by
  cases i <;> exact getLast?_callWith _ _ _

theorem idle_enumName {i : Instrument} (h : i.PlainNames) : Idle (enumName i) :=
  idle_append.mpr ⟨idle_camel h.name, i.idle_enumSuffix⟩

theorem contained_enumClass {name : String} (hn : Idle name) {constants : List String}
    (h : ∀ c ∈ constants, Plain c) : Contained (enumClass name constants) := by
  have hcomma : Contained ",\n" := by decide
  have hconstants : Contained (joinWith ",\n" (constants.map (indent ++ ·))) :=
    contained_joinWith hcomma (List.forall_mem_map.mpr fun c hc =>
      contained_of_idle (idle_append.mpr ⟨by decide, idle_of_plain (h c hc)⟩))
  have hfront : Idle ("enum class " ++ name) := idle_append.mpr ⟨by decide, hn⟩
  exact hconstants.between ['\x7d']
    ((contained_of_idle hfront).opening (by decide)) (by decide)

theorem contained_declaration {i : Instrument} (h : i.PlainNames) :
    Contained (k.declaration i) := by
  have hfront : Contained ("val " ++ i.identifier ++ ": " ++ k.propertyType i) := by
    refine contained_of_idle ?_
    simp only [idle_append]
    exact ⟨⟨⟨by decide, idle_camel h.name⟩, by decide⟩,
      Instrument.idle_appliedClass (idle_className _).2 (idle_enumName h)⟩
  have hcall := contained_call (k := k) h
  have hlast : (k.call i).toList.getLast? ≠ some '\n' := by
    rw [getLast?_call]
    decide
  refine hfront.append ?_
  cases i with
  | metric m =>
    have hindented : Contained (indentAll indent (k.call (.metric m))) :=
      ⟨starless_indentAll (by decide) hcall.starless,
        closed_indentAll (by decide) hcall.closed hlast⟩
    exact hindented.between ['\x7d'] (by decide) (by decide)
  | ping q => exact (contained_of_idle (by decide)).append hcall

theorem contained_entry {i : Instrument} (h : i.PlainNames) : (k.entry i).Contained := by
  refine ⟨?_, contained_declaration h⟩
  rw [entry, List.forall_mem_map]
  intro keys hkeys
  exact contained_enumClass (idle_enumName h) (h.enumKeys (Option.mem_toList.mp hkeys))

end Kotlin

namespace Swift

variable {w : Swift}

theorem contained_string (s : String) (h : Plain s) : Contained (string s) :=
  contained_quote (fun _ => plainEscape_of_isNameChar) staysQuoted_plainEscape h

theorem contained_literal (l : Literal) (h : l.Plain) : Contained (literal l) := by
  have hword : ∀ {word : String}, Plain word → Contained ("." ++ word) :=
    fun hw => contained_of_idle (idle_append.mpr ⟨by decide, idle_of_plain hw⟩)
  cases l with
  | bool b => exact contained_of_idle (by cases b <;> decide)
  | int i => exact contained_of_idle (idle_intToString i)
  | string s => exact contained_string s h
  | lifetime l => exact hword (plain_lifetime l)
  | timeUnit u => exact hword (plain_timeUnit u)
  | memoryUnit u => exact hword (plain_memoryUnit u)
  | histogramType t => exact hword (plain_histogramType t)
  | list items | set items =>
    exact (contained_strings contained_string h).between [']'] (by decide)
      (by decide)

theorem contained_callWith {constructor : String} {arguments : List Argument}
    {extra : List (String × String)} (hc : Idle constructor) (ha : ∀ a ∈ arguments, a.Plain)
    (he : ∀ e ∈ extra, ContainedPair e) : Contained (callWith constructor arguments extra) :=
  contained_constructed hc (by decide) (by decide)
    (List.forall_mem_append.mpr ⟨contained_spellArguments contained_literal ha, he⟩)

theorem idle_enumName {i : Instrument} (h : i.PlainNames) : Idle (enumName i) :=
  idle_append.mpr ⟨idle_pascal h.name, i.idle_enumSuffix⟩

theorem idle_constructor {i : Instrument} (h : i.PlainNames) : Idle (w.constructor i) := by
  have hping : Plain "Ping" := by decide
  rw [constructor, className]
  exact Instrument.idle_appliedClass (idle_runtimeClass hping _).2 (idle_enumName h)

theorem contained_extraArguments {m : Metric} (h : m.PlainNames) :
    ∀ e ∈ extraArguments m, ContainedPair e := by
  have hnames := h.keys
  rw [extraArguments]
  split
  · next extraKeys htype =>
    rw [htype] at hnames
    exact List.forall_mem_singleton.mpr (.of (by decide) (contained_literal (.list _) hnames))
  · next inner labels htype =>
    rw [htype] at hnames
    exact List.forall_mem_singleton.mpr (.of (by decide) (contained_literal (.set _) hnames))
  · exact List.forall_mem_singleton.mpr (.of (by decide) (contained_of_idle (by decide)))
  · exact fun e he => absurd he List.not_mem_nil

theorem contained_call {i : Instrument} (h : i.PlainNames) : Contained (w.call i) := by
  cases i with
  | metric m =>
    have hcall := contained_callWith (idle_constructor (w := w) h) (plain_metricArguments h)
      (contained_extraArguments h)
    rw [call]
    refine Contained.append (contained_of_idle ?_) hcall
    split <;> decide
  | ping q =>
    exact contained_callWith (idle_constructor h) (plain_pingArguments h)
      fun e he => absurd he List.not_mem_nil

theorem idle_caseLine (position : Nat) {key : String} (h : Plain key) :
    Idle (caseLine position key) := by
  simp only [caseLine, idle_append]
  exact ⟨⟨⟨⟨by decide, by decide⟩, idle_camel h⟩, by decide⟩, idle_natToString position⟩

def indexMethod (rawType : String) : String :=
  "\n" ++ indent ++ "public func index() -> " ++ rawType ++ " \x7b\n" ++
    (indent ++ indent ++ "return self.rawValue\n" ++ indent) ++ "\x7d"

theorem contained_indexMethod {rawType : String} (hr : Idle rawType) :
    Contained (indexMethod rawType) := by
  have hindent : Contained indent := contained_of_idle (by decide)
  have hfeed : Contained "\n" := by decide
  have hsignature : Contained "public func index() -> " := by decide
  have hreturn : Contained "return self.rawValue\n" := by decide
  have hopening : Turns [] ['\x7d'] " \x7b\n" := by decide
  have hfront := ((hfeed.append hindent).append hsignature).append (contained_of_idle hr)
  have hbody := ((hindent.append hindent).append hreturn).append hindent
  have hending : Turns ['\x7d'] [] "\x7d" := by decide
  rw [indexMethod]
  exact hbody.between ['\x7d'] (hfront.opening hopening) hending

theorem indexedEnum_eq (name rawType conformance : String) (keys : List String) :
    indexedEnum name rawType conformance keys =
      "enum " ++ name ++ ": " ++ rawType ++ ", " ++ conformance ++ " \x7b\n" ++
        (unlines (keys.mapIdx caseLine) ++ indexMethod rawType) ++ "\n\x7d" := by
  have hend : "\x7d" ++ "\n\x7d" = "\x7d\n\x7d" := by decide
  unfold indexedEnum indexMethod
  simp only [String.append_assoc, hend]

theorem contained_indexedEnum {name rawType conformance : String} (hn : Idle name)
    (hr : Idle rawType) (hc : Idle conformance) {keys : List String}
    (h : ∀ key ∈ keys, Plain key) : Contained (indexedEnum name rawType conformance keys) := by
  have hcases : Contained (unlines (keys.mapIdx caseLine)) := by
    refine contained_unlines fun line hline => ?_
    obtain ⟨n, hn, rfl⟩ := List.mem_mapIdx.mp hline
    exact contained_of_idle (idle_caseLine n (h _ (List.getElem_mem hn)))
  have hfront : Idle ("enum " ++ name ++ ": " ++ rawType ++ ", " ++ conformance) := by
    simp only [idle_append]
    exact ⟨⟨⟨⟨⟨by decide, hn⟩, by decide⟩, hr⟩, by decide⟩, hc⟩
  have hopening : Turns [] ['\x7d'] " \x7b\n" := by decide
  have hending : Turns ['\x7d'] [] "\n\x7d" := by decide
  rw [indexedEnum_eq]
  exact (hcases.append (contained_indexMethod hr)).between ['\x7d']
    ((contained_of_idle hfront).opening hopening) hending

theorem contained_entry {i : Instrument} (h : i.PlainNames) : (w.entry i).Contained := by
  refine ⟨?_, ?_⟩
  · rw [entry, List.forall_mem_map]
    intro keys hkeys
    have hraw : Idle (rawType i) := by cases i <;> simp only [rawType] <;> decide
    have hconformance : Idle (conformance i) := by
      cases i <;> simp only [conformance] <;> decide
    exact contained_indexedEnum (idle_enumName h) hraw hconformance
      (h.enumKeys (Option.mem_toList.mp hkeys))
  · have hfront : Idle ("static let " ++ i.identifier ++ " = ") := by
      simp only [idle_append]
      exact ⟨⟨by decide, idle_camel h.name⟩, by decide⟩
    exact (contained_of_idle hfront).append (contained_call h)

end Swift

/-- Whatever a target declares for an instrument with plain names is contained. -/
theorem Target.contained_entry {t : Target} {i : Instrument} (h : i.PlainNames) {e : Entry}
    (he : t.entry i = .ok e) : e.Contained := by
  cases t with
  | javascript => exact JavaScript.contained_entry h he
  | kotlin k => exact Except.ok.inj he ▸ Kotlin.contained_entry h
  | swift w => exact Except.ok.inj he ▸ Swift.contained_entry h

theorem Target.starless_entry {t : Target} {i : Instrument} (h : i.PlainNames) {e : Entry}
    (he : t.entry i = .ok e) : e.Starless := (contained_entry h he).starless

end TelemetryBindings
