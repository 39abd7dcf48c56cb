import AuditTrail.Record.Severity

/-! An entry of an audit log: a transaction, and a message for each rule that it matched. Headers
are kept in the order of their names. -/
namespace AuditTrail

/-- Header names in strictly increasing order, each with its values. -/
structure Headers where
  entries : List (String × List String)
  rising : entries.Pairwise (fun a b => a.1 < b.1)

namespace Headers

def empty : Headers := ⟨[], .nil⟩

instance : Inhabited Headers := ⟨empty⟩

instance : DecidableEq Headers := fun a b =>
  decidable_of_iff (a.entries = b.entries) (by cases a; cases b; simp)

def put (name : String) (values : List String) :
    List (String × List String) → List (String × List String)
  | [] => [(name, values)]
  | (other, old) :: rest =>
    if name < other then (name, values) :: (other, old) :: rest
    else if name = other then (name, values) :: rest
    else (other, old) :: put name values rest

theorem mem_put {name : String} {values : List String} {entries : List (String × List String)}
    {e : String × List String} (h : e ∈ put name values entries) :
    e = (name, values) ∨ e ∈ entries := by
  induction entries with
  | nil => simpa [put] using h
  | cons head rest ih =>
    obtain ⟨other, old⟩ := head
    unfold put at h
    split at h
    · simpa using h
    · split at h
      · rcases List.mem_cons.1 h with h | h
        · exact .inl h
        · exact .inr (List.mem_cons_of_mem _ h)
      · rcases List.mem_cons.1 h with h | h
        · exact .inr (h ▸ List.mem_cons_self)
        · exact (ih h).imp_right (List.mem_cons_of_mem _)

theorem put_rising (name : String) (values : List String) {entries : List (String × List String)}
    (h : entries.Pairwise (fun a b => a.1 < b.1)) :
    (put name values entries).Pairwise (fun a b => a.1 < b.1) := by
  induction entries with
  | nil => simp [put]
  | cons head rest ih =>
    obtain ⟨other, old⟩ := head
    have ⟨first, later⟩ := List.pairwise_cons.1 h
    unfold put
    split
    · next lt =>
      refine List.pairwise_cons.2 ⟨?_, h⟩
      intro e he
      rcases List.mem_cons.1 he with rfl | he
      · exact lt
      · exact String.lt_trans lt (first e he)
    · next notLt =>
      split
      · next eq => exact List.pairwise_cons.2 ⟨fun e he => eq ▸ first e he, later⟩
      · next ne =>
        refine List.pairwise_cons.2 ⟨?_, ih later⟩
        intro e he
        rcases mem_put he with rfl | he
        · exact Decidable.byContradiction fun notGt =>
            ne (String.le_antisymm (String.not_lt.1 notGt) (String.not_lt.1 notLt))
        · exact first e he

def insert (h : Headers) (name : String) (values : List String) : Headers :=
  ⟨put name values h.entries, put_rising name values h.rising⟩

end Headers

structure Request where
  method : String := ""
  protocol : String := ""
  uri : String := ""
  httpVersion : String := ""
  headers : Headers := .empty
  body : String := ""
  deriving DecidableEq

structure Response where
  protocol : String := ""
  status : Int64 := 0
  headers : Headers := .empty
  body : String := ""
  deriving DecidableEq

structure Transaction where
  timestamp : String := ""
  unixTimestamp : Int64 := 0
  id : String := ""
  clientIp : String := ""
  clientPort : Int64 := 0
  hostIp : String := ""
  hostPort : Int64 := 0
  serverId : String := ""
  request : Option Request := none
  response : Option Response := none
  deriving DecidableEq

/-- Details of the rule that matched. -/
structure Detail where
  file : String := ""
  line : Int64 := 0
  id : Int64 := 0
  rev : String := ""
  msg : String := ""
  data : String := ""
  severity : Severity := .emergency
  ver : String := ""
  maturity : Int64 := 0
  accuracy : Int64 := 0
  tags : List String := []
  raw : String := ""
  deriving DecidableEq

structure Message where
  message : String := ""
  data : Detail := {}
  deriving DecidableEq

structure Record where
  transaction : Transaction := {}
  messages : List Message := []
  deriving DecidableEq

def Detail.ruleId (d : Detail) : String := d.file ++ "-" ++ toString d.id.toInt

def Record.hasViolations (r : Record) : Bool := !r.messages.isEmpty

def Record.ruleIds (r : Record) : List String := r.messages.map (·.data.ruleId)

end AuditTrail
