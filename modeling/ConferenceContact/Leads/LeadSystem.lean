import ConferenceContact.Leads.RequestStages

/-!
# Workers, requests and the queue

The workers of the Apollo queue take the queue jobs that the requests add, one at
a time and the oldest first, and run them; every call of a worker or a request is
a turn of its own.
-/

namespace ConferenceContact

open Process

/-- A worker, between queue jobs or running one; a request; or other code. -/
inductive LeadMember
  | worker (current : Option SearchRun)
  | request (stage : RequestStage)
  | other (left : Service Unit)

/-- What other code leaves to Lead Finder. -/
structure Aside (before after : World) : Prop where
  jobs : after.leadSearchJobs = before.leadSearchJobs
  results : after.leadSearchResults = before.leadSearchResults
  queue : after.apolloQueue = before.apolloQueue
  supply : before.nextId ≤ after.nextId

instance : Std.Refl Aside where
  refl _ := ⟨rfl, rfl, rfl, Nat.le_refl _⟩

/-- A change of a comp flag is no business of the searches. -/
theorem aside_setLeadFinderAccess
    (adminUserId targetUserId : UserId)
    (granted : Bool) :
    (AdminService.setLeadFinderAccess adminUserId targetUserId granted).Respects Aside := by
  refine Respects.bind (Respects.query _) fun target => ?_
  split
  · refine Respects.bind (Respects.attempt fun input world value after updated => ?_)
      fun _ => Respects.command fun _ _ => ⟨rfl, rfl, rfl, Nat.le_refl _⟩
    split at updated
    · cases updated
    · cases updated
      exact ⟨rfl, rfl, rfl, Nat.le_refl _⟩
  · exact Respects.throw _

namespace LeadSystem

variable (app : Deployment)

/-- A worker without a queue job takes the oldest one. -/
def poll (world : World) : World :=
  { world with apolloQueue := world.apolloQueue.tail }

/-- The turn of a member. -/
def effect (member : LeadMember) (input : Input) (world : World) : World :=
  match member with
  | .worker none => poll world
  | .worker (some run) => SearchRun.machine.effect run input world
  | .request stage => (RequestStage.machine app).effect stage input world
  | .other left => left.effect input world

/-- What a member is about to do after a call. -/
def next (member : LeadMember) (input : Input) (world : World) : LeadMember :=
  match member with
  | .worker none => .worker (world.apolloQueue.head?.map SearchRun.start)
  | .worker (some run) =>
      if run.stage.isOver then .worker none
      else .worker (some (SearchRun.machine.next run input world))
  | .request stage => .request ((RequestStage.machine app).next stage input world)
  | .other left => .other (left.residual input world)

/-- What a member is about to do after a call that was rejected. -/
def abort (member : LeadMember) (error : ApiError) : LeadMember :=
  match member with
  | .worker none => .worker none
  | .worker (some run) => .worker (some (SearchRun.machine.abort run error))
  | .request stage => .request ((RequestStage.machine app).abort stage error)
  | .other left => .other (left.rejected error)

/-- Workers and requests call by call. -/
def machine : Machine LeadMember Input ApiError World where
  effect := effect app
  next := next app
  abort := abort app

/-- Idle workers, requests that are about to start, and other code. -/
def crew
    (world : World)
    (workers : Nat)
    (requests : List SearchRequest)
    (others : List (Service Unit)) : Crew LeadMember World where
  state := world
  members :=
    List.replicate workers (.worker none) ++
      requests.map (fun request => .request (RequestStage.start app request)) ++
      others.map .other

/-! ## The members run the code -/

/-- The code left of a member. -/
def code (member : LeadMember) : Service Unit :=
  match member with
  | .worker none => pure ()
  | .worker (some run) => run.code
  | .request stage => stage.code app
  | .other left => left

/-- A worker between queue jobs, or at the end of one, runs no code. -/
def runsCode (member : LeadMember) : Bool :=
  match member with
  | .worker none => false
  | .worker (some run) => !run.stage.isOver
  | .request _ => true
  | .other _ => true

variable {app} {member : LeadMember}

theorem effect_code (runs : runsCode member = true) (input : Input) (world : World) :
    (code app member).effect input world = (machine app).effect member input world := by
  cases member with
  | worker current =>
      cases current with
      | none => cases runs
      | some run => exact SearchRun.implements.effect run input world
  | request stage => exact (RequestStage.implements app).effect stage input world
  | other left => rfl

theorem residual_code (runs : runsCode member = true) (input : Input) (world : World) :
    (code app member).residual input world =
      code app ((machine app).next member input world) := by
  cases member with
  | worker current =>
      cases current with
      | none => cases runs
      | some run =>
          have going : ¬run.stage.isOver = true := by
            rw [runsCode, Bool.not_eq_true'] at runs
            rw [runs]
            exact Bool.false_ne_true
          show _ = code app (next app (.worker (some run)) input world)
          rw [next, if_neg going]
          exact SearchRun.implements.next run input world
  | request stage => exact (RequestStage.implements app).next stage input world
  | other left => rfl

theorem rejected_code (runs : runsCode member = true) (error : ApiError) :
    (code app member).rejected error = code app ((machine app).abort member error) := by
  cases member with
  | worker current =>
      cases current with
      | none => cases runs
      | some run => exact SearchRun.implements.abort run error
  | request stage => exact (RequestStage.implements app).abort stage error
  | other left => rfl

end LeadSystem
end ConferenceContact
