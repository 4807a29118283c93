import A2A.Library.Overlay
import A2A.Server.Properties.ReturnedTasks

namespace A2A.Server

open Library

/-! Merging lays the incoming artifacts over the persisted ones, as long as none of them is new twice.

The ids seen are those of the persisted artifacts alone.  They are not added to on the way, so a
new id is appended as often as it comes.
-/

theorem additions_ids (persisted incoming : List Artifact) :
    (additions persisted incoming).map Artifact.artifactId =
      newKeys Artifact.artifactId persisted incoming := by
  rw [newKeys, List.filter_map, additions]
  refine congrArg (List.map Artifact.artifactId) (List.filter_congr fun artifact _ => ?_)
  rw [Bool.eq_iff_iff]
  simp

theorem mergeArtifacts_ids (persisted incoming : List Artifact) :
    (mergeArtifacts persisted incoming).map Artifact.artifactId =
      persisted.map Artifact.artifactId ++ newKeys Artifact.artifactId persisted incoming := by
  rw [mergeArtifacts_split, List.map_append, replacements_ids, additions_ids]

theorem newest_of_incomingById {incoming : List Artifact} {artifactId : String} {artifact : Artifact}
    (found : incomingById incoming artifactId = some artifact) :
    Newest Artifact.artifactId incoming artifact :=
  newest_of_find? found

/-- What stands in a persisted artifact's place came last under its id, or nothing came. -/
theorem newest_of_replacement {persisted incoming : List Artifact} {artifact : Artifact}
    (member : artifact ∈ replacements persisted incoming) :
    Newest Artifact.artifactId incoming artifact ∨
      artifact ∈ persisted ∧ ∀ other ∈ incoming, other.artifactId ≠ artifact.artifactId := by
  obtain ⟨stored, present, placed⟩ := List.mem_map.mp member
  cases found : incomingById incoming stored.artifactId with
  | some last =>
      rw [found, Option.getD_some] at placed
      exact .inl (newest_of_incomingById (placed ▸ found))
  | none =>
      rw [found, Option.getD_none] at placed
      subst placed
      refine .inr ⟨present, fun other came same => ?_⟩
      obtain ⟨last, read, -⟩ := incomingById_of_mem came
      rw [same, found] at read
      cases read

/-- An artifact whose id is new only once is the newest there is. -/
theorem newest_of_addition {persisted incoming : List Artifact}
    (single : (newKeys Artifact.artifactId persisted incoming).Nodup) {artifact : Artifact}
    (member : artifact ∈ additions persisted incoming) :
    Newest Artifact.artifactId incoming artifact := by
  obtain ⟨came, absent⟩ := mem_additions.mp member
  obtain ⟨last, read, among, same⟩ := incomingById_of_mem came
  have added : last ∈ additions persisted incoming := by
    refine mem_additions.mpr ⟨among, fun stored present => ?_⟩
    rw [same]
    exact absent stored present
  rw [← additions_ids] at single
  have equal := List.inj_on_of_nodup_map single added member same
  exact newest_of_incomingById (equal ▸ read)

/-- The merged list is the overlay exactly when no id comes twice that is not persisted. -/
theorem mergeArtifacts_overlays {persisted incoming : List Artifact}
    (distinct : (persisted.map Artifact.artifactId).Nodup) :
    Overlays Artifact.artifactId persisted incoming (mergeArtifacts persisted incoming) ↔
      (newKeys Artifact.artifactId persisted incoming).Nodup := by
  constructor
  · intro overlays
    have keys := overlays.keys
    rw [mergeArtifacts_ids, List.append_cancel_left_eq] at keys
    exact eraseDups_eq_self.mp keys.symm
  · intro single
    have keys : (mergeArtifacts persisted incoming).map Artifact.artifactId =
        persisted.map Artifact.artifactId ++
          (newKeys Artifact.artifactId persisted incoming).eraseDups := by
      rw [mergeArtifacts_ids, eraseDups_eq_self.mpr single]
    refine ⟨once_of_keys distinct keys, keys, fun artifact member => ?_⟩
    rw [mergeArtifacts_split] at member
    cases List.mem_append.mp member with
    | inl replaced => exact newest_of_replacement replaced
    | inr added => exact .inl (newest_of_addition single added)

/-- A persisted id that comes twice is overlaid by the artifact that comes last. -/
theorem mergeArtifacts_overlays_persisted :
    Overlays Artifact.artifactId [Scenario.artifact "report" ["draft"], Scenario.artifact "plan" []]
      [Scenario.artifact "report" ["second"], Scenario.artifact "log" [], Scenario.artifact "report" ["final"]]
      (mergeArtifacts [Scenario.artifact "report" ["draft"], Scenario.artifact "plan" []]
        [Scenario.artifact "report" ["second"], Scenario.artifact "log" [],
          Scenario.artifact "report" ["final"]]) :=
  (mergeArtifacts_overlays (by decide)).mpr (by decide)

/-- A new id that comes twice is there twice. -/
theorem mergeArtifacts_repeats :
    ¬ ∀ persisted incoming : List Artifact, (persisted.map Artifact.artifactId).Nodup →
      Overlays Artifact.artifactId persisted incoming (mergeArtifacts persisted incoming) := by
  intro always
  have overlays := always [Scenario.artifact "report" []]
    [Scenario.artifact "log" ["begun"], Scenario.artifact "log" ["ended"]] (by decide)
  have once := overlays.once (Scenario.artifact "log" ["begun"]) (by simp)
  revert once
  decide

end A2A.Server
