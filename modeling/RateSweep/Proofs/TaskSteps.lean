import Mathlib
import RateSweep.Task

namespace RateSweep.Task

variable {s : Settings} {output : String} {x y : Plan → Action Plan} {os os' : List Output}
  {n n' : Nat}

theorem writeAll_append (t : FileTree) (os os' : List Output) :
    Output.writeAll t (os ++ os') =
      match Output.writeAll t os with
      | (t, none) => Output.writeAll t os'
      | (t, some e) => (t, some e) := by
  induction os generalizing t with
  | nil => rfl
  | cons o os ih =>
    rw [List.cons_append, Output.writeAll, Output.writeAll]
    rcases o.write t with ⟨t, _ | e⟩
    · exact ih t
    · rfl

def emitted (os : List Output) (n : Nat) (p : Plan) (t : FileTree) :
    Except TaskError Plan × FileTree :=
  match Output.writeAll t os with
  | (t, none) => (.ok ⟨p.outputs ++ os, p.dropped + n, p.diagnostics⟩, t)
  | (t, some e) => (.error e, t)

def Emits (x : Plan → Action Plan) (os : List Output) (n : Nat) : Prop :=
  ∀ p t, (x p).runOn t = emitted os n p t

theorem emits_pure : Emits pure [] 0 := by
  intro p t
  simp only [emitted, Output.writeAll, List.append_nil, Nat.add_zero, Steps.runOn_pure]

theorem emits_emit (o : Output) : Emits (emit · o) [o] 0 := by
  intro p t
  simp only [emit, emitted, Output.writeAll]
  rw [Steps.runOn_bind, Steps.runOn_get]
  dsimp only
  rcases o.write t with ⟨t, _ | e⟩ <;> rfl

theorem Emits.bind (hx : Emits x os n) (hy : Emits y os' n') :
    Emits (fun p => x p >>= y) (os ++ os') (n + n') := by
  intro p t
  rw [Steps.runOn_bind, hx p t, emitted, emitted, writeAll_append]
  rcases Output.writeAll t os with ⟨t, _ | e⟩
  · dsimp only
    rw [hy, emitted]
    rcases Output.writeAll t os' with ⟨t, _ | e⟩
    · simp only [List.append_assoc, Nat.add_assoc]
    · rfl
  · rfl

theorem Emits.drop (hx : Emits x os n) (k : Nat) : Emits (fun p => x (p.drop k)) os (k + n) := by
  intro p t
  rw [hx, emitted, emitted, Plan.drop, Nat.add_assoc]

theorem emits_foldlM {α : Type} {f : Plan → α → Action Plan} {outputs : α → List Output}
    {dropped : α → Nat} (h : ∀ a, Emits (f · a) (outputs a) (dropped a)) (as : List α) :
    Emits (fun p => as.foldlM f p) (as.flatMap outputs) (as.map dropped).sum := by
  induction as with
  | nil => exact emits_pure
  | cons a as ih =>
    simp only [List.foldlM_cons, List.flatMap_cons, List.map_cons, List.sum_cons]
    exact (h a).bind ih

theorem emits_emitTables (directory : String) (ts : List RateTable) :
    Emits (emitTables directory ts) (ts.map (tableOutput directory)) 0 := by
  have htables := emits_foldlM (fun t => emits_emit (tableOutput directory t)) ts
  rwa [← List.map_eq_flatMap, List.map_const', List.sum_replicate, smul_zero] at htables

theorem emits_emitDistribution (bins : Nat) (directory : String) (c : ClientSummary) :
    Emits (emitDistribution bins directory · c) (distribution? bins directory c).toList 0 := by
  unfold emitDistribution
  cases distribution? bins directory c with
  | some o => exact emits_emit o
  | none => exact emits_pure

theorem emits_clientMetrics (output : String) (d : Design) (clients : List ClientSummary) (g : Grouping) :
    Emits (fun p => clientMetrics.foldlM (emitComparison d output clients g) p)
      (clientTables d output clients g).1 (clientTables d output clients g).2 := by
  have htimes := emits_emitTables (Path.join output "client-service-times")
    (compare g d .meanServiceTime clients).tables
  have herrors := emits_emitTables (Path.join output "client-errors")
    (compare g d .errorFraction clients).tables
  have hboth := (htimes.drop (compare g d .meanServiceTime clients).dropped).bind
    (herrors.bind emits_pure)
  rwa [List.append_nil] at hboth

/-- What comes of a plan when all that it can fail for is known before anything is written. -/
def carriedOut (plan : Except TaskError Plan) (t : FileTree) : Except TaskError Plan × FileTree :=
  match plan with
  | .error e => (.error e, t)
  | .ok p =>
    match Output.writeAll t p.outputs with
    | (t, none) => (.ok p, t)
    | (t, some e) => (.error e, t)

theorem emits_emitClients (s : Settings) (output : String) (i : Intake) :
    Emits (emitClients s output i) (planClients s output i).outputs
      (planClients s output i).dropped := by
  have hdistributions := emits_foldlM
    (emits_emitDistribution s.histogramBins (Path.join output "client-distributions")) i.clients
  have htables := emits_foldlM (emits_clientMetrics output s.design i.clients) Grouping.all
  have hboth := hdistributions.bind htables
  rw [List.map_const', List.sum_replicate, smul_zero, Nat.zero_add] at hboth
  simp only [planClients, List.filterMap_eq_flatMap_toList, List.flatMap_map, List.map_map]
  exact hboth

theorem emits_emitBalancer (s : Settings) (output : String) (i : Intake) :
    Emits (emitBalancer s output i) (planBalancer s output i).outputs
      (planBalancer s output i).dropped := by
  have htables := emits_foldlM (fun g => (emits_emitTables (Path.join output "lb-tables")
    (compare g s.design .requestsPerSecond i.balancers).tables).drop
      (compare g s.design .requestsPerSecond i.balancers).dropped) Grouping.all
  simp only [planBalancer, List.flatMap_map, List.map_map]
  exact htables

theorem emits_emitCluster (s : Settings) (output : String) (i : Intake) :
    Emits (emitCluster s output i) (planCluster s output i).outputs
      (planCluster s output i).dropped := by
  have hcounts := emits_foldlM
    (fun c => emits_emit (countsOutput (Path.join output "node-request-counts") c)) i.clusters
  have hidle := (emits_emitTables (Path.join output "idle-times")
    (idleTables s.design i.clusters).tables).drop (idleTables s.design i.clusters).dropped
  have hboth := hcounts.bind hidle
  rw [List.map_const', List.sum_replicate, smul_zero, Nat.zero_add, Nat.add_zero,
    ← List.map_eq_flatMap] at hboth
  exact hboth

theorem runOn_sourceSteps {kind : LogKind} {emitAll : Intake → Plan → Action Plan}
    (plan : Intake → Plan) (hplan : ∀ i, (plan i).diagnostics = i.diagnostics.length)
    (h : ∀ i, Emits (emitAll i) (plan i).outputs (plan i).dropped) (source : String) (t : FileTree) :
    (sourceSteps s source kind emitAll).runOn t =
      carriedOut ((intake s t source kind).map plan) t := by
  rw [sourceSteps, Steps.runOn_bind, Steps.runOn_get]
  dsimp only
  rw [Steps.runOn_bind, Steps.runOn_lift]
  cases intake s t source kind with
  | error e => rfl
  | ok i =>
    simp only [h i _ t, emitted, carriedOut, Except.map, Plan.start, Nat.zero_add, List.nil_append,
      ← hplan]

theorem runOn_emit_start (o : Output) (t : FileTree) :
    (emit (.start 0) o).runOn t = carriedOut (.ok ⟨[o], 0, 0⟩) t := emits_emit o (.start 0) t

theorem runOn_lift_bind {α : Type} {t : FileTree} {read : Except TaskError α} {next : α → Action Plan}
    {plan : α → Except TaskError Plan} (h : ∀ a, (next a).runOn t = carriedOut (plan a) t) :
    Steps.runOn (liftM read >>= next) t = carriedOut (read >>= plan) t := by
  rw [Steps.runOn_bind, Steps.runOn_lift]
  cases read with
  | error e => rfl
  | ok a => exact h a

theorem runOn_queueSteps (file : String) (t : FileTree) :
    (queueSteps s output file).runOn t = carriedOut (planQueues s output t file) t := by
  apply runOn_lift_bind
  rintro ⟨kind, name⟩
  rw [Steps.runOn_bind, Steps.runOn_get]
  apply runOn_lift_bind
  intro entry
  cases kind with
  | client => rfl
  | balancer =>
    apply runOn_lift_bind
    intro series
    exact runOn_emit_start _ t
  | cluster =>
    apply runOn_lift_bind
    intro connections
    exact runOn_emit_start _ t

theorem runOn_filterSteps (file : String) (f : LogFilter) (t : FileTree) :
    (filterSteps s output file f).runOn t = carriedOut (planFilter s output t file f) t := by
  apply runOn_lift_bind
  rintro ⟨kind, name⟩
  rw [Steps.runOn_bind, Steps.runOn_get]
  apply runOn_lift_bind
  intro entry
  apply runOn_lift_bind
  intro filtered
  exact runOn_emit_start _ t

theorem run_eq_carriedOut (s : Settings) (output : String) (t : FileTree) (task : Task) :
    task.run s output t = carriedOut (task.plan s output t) t := by
  cases task with
  | clients source =>
    exact runOn_sourceSteps (planClients s output) (fun _ => rfl)
      (emits_emitClients s output) source t
  | balancer source =>
    exact runOn_sourceSteps (planBalancer s output) (fun _ => rfl)
      (emits_emitBalancer s output) source t
  | cluster source =>
    exact runOn_sourceSteps (planCluster s output) (fun _ => rfl)
      (emits_emitCluster s output) source t
  | queues file => exact runOn_queueSteps file t
  | filter file f => exact runOn_filterSteps file f t

end RateSweep.Task
