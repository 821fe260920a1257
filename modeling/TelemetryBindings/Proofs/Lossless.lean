import TelemetryBindings.Proofs.Definitions

/-!
# Nothing is lost in a build

A model that was built lists every definition of its documents once, in the order in which the
documents declare them, and nothing else.
-/
namespace TelemetryBindings

/-- A model that was built holds every definition of its documents once and in order. -/
theorem buildModel_lossless {p : Policy} {documents : List SourceDocument} {model : Model}
    (h : buildModel p documents = .ok model) :
    (∀ d ∈ documents, d.WellShaped) ∧
    model.metrics.map Metric.key = (metricDefinitionsOf documents).map metricKey ∧
    model.pings.map (·.name) = (pingDefinitionsOf documents).map (·.1) := by
  obtain ⟨hfindings, rfl⟩ := buildModel_eq_ok_iff.mp h
  have hflawless := (acceptable_findingsOf_iff.mp hfindings).1
  exact ⟨fun d hd => (hflawless d hd).shape, metrics_findingsOf hflawless,
    pings_findingsOf hflawless⟩

def sampleDocuments : List SourceDocument :=
  [SourceDocument.ofEntries "a.yaml" .metrics
    [("nav.bar", .mapping [("clicks", sampleCounter "Clicks."), ("drags", sampleCounter "")]),
      ("no_lint", .list []),
      ("glean.internal.metrics", .mapping [("errors", sampleCounter "Errors.")])],
    SourceDocument.ofEntries "p.yaml" .pings [("crash", samplePing "Crashes.")],
    SourceDocument.ofEntries "b.yaml" .metrics [("nav.bar", .mapping [("taps", sampleCounter "Taps.")])]]

theorem buildModel_lossless_sample :
    ∃ model, buildModel ⟨{ allowReserved := true }, none⟩ sampleDocuments = .ok model ∧
      model.metrics.map Metric.key =
        [("nav.bar", "clicks"), ("nav.bar", "drags"), ("", "errors"), ("nav.bar", "taps")] ∧
      model.pings.map (·.name) = ["crash"] := by
  have hok : (buildModel ⟨{ allowReserved := true }, none⟩ sampleDocuments).isOk = true := by
    decide +kernel
  cases h : buildModel ⟨{ allowReserved := true }, none⟩ sampleDocuments with
  | error errors => simp [h, Except.isOk, Except.toBool] at hok
  | ok model =>
    obtain ⟨-, hmetrics, hpings⟩ := buildModel_lossless h
    exact ⟨model, rfl, hmetrics.trans (by decide), hpings.trans (by decide)⟩

end TelemetryBindings
