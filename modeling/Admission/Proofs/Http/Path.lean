import Admission.Http.Endpoint

/-!
# Paths and their endpoints

The router cuts a path at every slash and looks at the pieces.  This file says what that amounts to:
each endpoint has one path, made of literal names and its id as it stands, and a path leads to the
endpoint that has it.  An id is any run of bytes without a slash that is not empty.

## Main results

* `intercalate_segments`: the segments make up the path again.
* `Endpoint.ofPath?_path`, `Endpoint.eq_path_of_ofPath?`: a path leads to an endpoint exactly if it
  is the endpoint's path.
* `isGatedPath_iff`: the four families of paths behind the gate.
-/

namespace Admission.Http

open Admission.Text

/-! ## Segments -/

theorem segments_ne_nil (path : List UInt8) : segments path ≠ [] := by
  cases path with
  | nil => simp [segments]
  | cons b bs =>
      rw [segments]
      split
      · simp
      · split <;> simp

/-- A path without a slash is one segment. -/
theorem segments_of_not_mem {s : List UInt8} (hSlash : 0x2F ∉ s) :
    segments s = [s] := by
  induction s with
  | nil => rfl
  | cons b s ih =>
      rw [List.mem_cons, not_or] at hSlash
      obtain ⟨hHead, hTail⟩ := hSlash
      rw [segments, if_neg (Ne.symm hHead), ih hTail]

/-- The first segment ends at the first slash. -/
theorem segments_append {s : List UInt8} (hSlash : 0x2F ∉ s)
    (path : List UInt8) :
    segments (s ++ 0x2F :: path) = s :: segments path := by
  induction s with
  | nil => rw [List.nil_append, segments, if_pos rfl]
  | cons b s ih =>
      rw [List.mem_cons, not_or] at hSlash
      obtain ⟨hHead, hTail⟩ := hSlash
      rw [List.cons_append, segments, if_neg (Ne.symm hHead), ih hTail]

/-- No segment has a slash in it. -/
theorem not_mem_of_mem_segments {path : List UInt8} :
    ∀ s ∈ segments path, 0x2F ∉ s := by
  induction path with
  | nil => simp [segments]
  | cons b path ih =>
      intro s hs
      obtain ⟨first, rest, hCut⟩ := List.exists_cons_of_ne_nil (segments_ne_nil path)
      rw [hCut] at ih
      rw [segments, hCut] at hs
      split at hs
      · rcases List.mem_cons.1 hs with rfl | hRest
        · exact List.not_mem_nil
        · exact ih s hRest
      · next hHead =>
          rcases List.mem_cons.1 hs with rfl | hRest
          · intro hMem
            rcases List.mem_cons.1 hMem with hEq | hFirst
            · exact hHead hEq.symm
            · exact ih first (List.mem_cons_self ..) hFirst
          · exact ih s (List.mem_cons_of_mem first hRest)

/-- The segments make up the path again. -/
theorem intercalate_segments (path : List UInt8) :
    [0x2F].intercalate (segments path) = path := by
  induction path with
  | nil => rfl
  | cons b path ih =>
      obtain ⟨first, rest, hCut⟩ := List.exists_cons_of_ne_nil (segments_ne_nil path)
      rw [hCut] at ih
      rw [segments, hCut]
      split
      · next hSlash =>
          subst hSlash
          simpa [List.intercalate, List.intersperse] using ih
      · cases rest with
        | nil => simpa [List.intercalate] using ih
        | cons second rest => simpa [List.intercalate] using ih

/-! ## The path of an endpoint -/

/-- What may stand in a path for an id. -/
def IsSegment (s : List UInt8) : Prop := s ≠ [] ∧ 0x2F ∉ s

namespace Endpoint

/-- The id of an endpoint that has one can stand in a path. -/
def Addressable : Endpoint → Prop
  | .job s => IsSegment s
  | .session s => IsSegment s
  | _ => True

/-- The path that leads to an endpoint. -/
def path : Endpoint → List UInt8
  | .health => utf8 "/healthz"
  | .jobs => utf8 "/jobs"
  | .job s => utf8 "/jobs/" ++ s
  | .sessions => utf8 "/sessions"
  | .session s => utf8 "/sessions/" ++ s

private theorem slash_not_mem_names :
    0x2F ∉ utf8 "healthz" ∧ 0x2F ∉ utf8 "jobs" ∧ 0x2F ∉ utf8 "sessions" := by
  decide

/-- The path of an endpoint, cut into its segments. -/
theorem segments_path {e : Endpoint} (he : e.Addressable) :
    segments e.path =
      match e with
      | .health => [[], utf8 "healthz"]
      | .jobs => [[], utf8 "jobs"]
      | .job s => [[], utf8 "jobs", s]
      | .sessions => [[], utf8 "sessions"]
      | .session s => [[], utf8 "sessions", s] := by
  cases e with
  | health => rfl
  | jobs => rfl
  | sessions => rfl
  | job s =>
      show segments ([] ++ 0x2F :: (utf8 "jobs" ++ 0x2F :: s)) = _
      rw [segments_append List.not_mem_nil,
        segments_append slash_not_mem_names.2.1, segments_of_not_mem he.2]
  | session s =>
      show segments ([] ++ 0x2F :: (utf8 "sessions" ++ 0x2F :: s)) = _
      rw [segments_append List.not_mem_nil,
        segments_append slash_not_mem_names.2.2, segments_of_not_mem he.2]

/-- The path of an endpoint leads to it. -/
theorem ofPath?_path {e : Endpoint} (he : e.Addressable) :
    ofPath? e.path = some e := by
  rw [ofPath?, segments_path he]
  cases e with
  | health => rfl
  | jobs => rfl
  | sessions => rfl
  | job s =>
      obtain ⟨b, bs, rfl⟩ := List.exists_cons_of_ne_nil he.1
      rfl
  | session s =>
      obtain ⟨b, bs, rfl⟩ := List.exists_cons_of_ne_nil he.1
      rfl

private theorem intercalate_three (name s : List UInt8) :
    [0x2F].intercalate [[], name, s] = 0x2F :: name ++ 0x2F :: s := by
  simp [List.intercalate]

/-- A path leads nowhere but to the endpoint whose path it is. -/
theorem eq_path_of_ofPath? {path : List UInt8} {e : Endpoint}
    (h : ofPath? path = some e) : e.Addressable ∧ path = e.path := by
  have hJoin := intercalate_segments path
  have hSlash : ∀ s ∈ segments path, 0x2F ∉ s := not_mem_of_mem_segments
  unfold ofPath? at h
  split at h
  · next name hCut =>
      rw [hCut] at hJoin
      split at h
      · next hHealth =>
          cases h
          exact ⟨trivial, by rw [← hJoin, hHealth]; rfl⟩
      · split at h
        · next hJobs =>
            cases h
            exact ⟨trivial, by rw [← hJoin, hJobs]; rfl⟩
        · split at h
          · next hSessions =>
              cases h
              exact ⟨trivial, by rw [← hJoin, hSessions]; rfl⟩
          · cases h
  · next name b bs hCut =>
      rw [hCut] at hJoin hSlash
      have hId : IsSegment (b :: bs) := ⟨List.cons_ne_nil b bs, hSlash (b :: bs) (by simp)⟩
      split at h
      · next hJobs =>
          cases h
          exact ⟨hId, by rw [← hJoin, hJobs, intercalate_three]; rfl⟩
      · split at h
        · next hSessions =>
            cases h
            exact ⟨hId, by rw [← hJoin, hSessions, intercalate_three]; rfl⟩
        · cases h
  · cases h

end Endpoint

/-! ## Paths behind the gate -/

/-- The paths `/jobs`, `/jobs/{id}`, `/sessions` and `/sessions/{id}`. -/
def IsGatedPath (path : List UInt8) : Prop :=
  path = utf8 "/jobs" ∨ (∃ s, IsSegment s ∧ path = utf8 "/jobs/" ++ s) ∨
    path = utf8 "/sessions" ∨
    ∃ s, IsSegment s ∧ path = utf8 "/sessions/" ++ s

/-- They are the paths of the endpoints behind the gate. -/
theorem isGatedPath_iff {path : List UInt8} :
    IsGatedPath path ↔ ∃ e, Endpoint.ofPath? path = some e ∧ e.isGated = true := by
  constructor
  · rintro (rfl | ⟨s, hs, rfl⟩ | rfl | ⟨s, hs, rfl⟩)
    · exact ⟨.jobs, Endpoint.ofPath?_path (e := .jobs) trivial, rfl⟩
    · exact ⟨.job s, Endpoint.ofPath?_path (e := .job s) hs, rfl⟩
    · exact ⟨.sessions, Endpoint.ofPath?_path (e := .sessions) trivial, rfl⟩
    · exact ⟨.session s, Endpoint.ofPath?_path (e := .session s) hs, rfl⟩
  · rintro ⟨e, hPath, hGated⟩
    obtain ⟨he, rfl⟩ := Endpoint.eq_path_of_ofPath? hPath
    cases e with
    | health => cases hGated
    | jobs => exact .inl rfl
    | job s => exact .inr (.inl ⟨s, he, rfl⟩)
    | sessions => exact .inr (.inr (.inl rfl))
    | session s => exact .inr (.inr (.inr ⟨s, he, rfl⟩))

end Admission.Http
