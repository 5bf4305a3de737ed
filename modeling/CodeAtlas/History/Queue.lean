/-! # Queues by time

A heap in an array: no member is later than the one above it. The latest member is taken first;
which of several equally late ones is taken follows from where the heap has put them. -/
namespace CodeAtlas.History

abbrev TimeQueue := Array (Int × String)

namespace TimeQueue

def timeAt (q : TimeQueue) (i : Nat) : Int := ((q[i]?).map (·.1)).getD 0

/-- Move a member up while it is later than the one above it. -/
def rise (q : TimeQueue) (i : Nat) : TimeQueue :=
  if h : i = 0 then q
  else
    let above := (i - 1) / 2
    if q.timeAt i ≤ q.timeAt above then q else rise (q.swapIfInBounds i above) above
  termination_by i
  decreasing_by omega

def push (q : TimeQueue) (time : Int) (name : String) : TimeQueue :=
  rise (Array.push q (time, name)) q.size

/-- Move a member down to the bottom, each time past the later of the two below it, and then up to
where it belongs. -/
def sink (fuel : Nat) (q : TimeQueue) (i : Nat) : TimeQueue :=
  match fuel with
  | 0 => rise q i
  | fuel + 1 =>
      let left := 2 * i + 1
      if left + 1 < q.size then
        let child := if q.timeAt left ≤ q.timeAt (left + 1) then left + 1 else left
        sink fuel (q.swapIfInBounds i child) child
      else if left + 1 = q.size then rise (q.swapIfInBounds i left) left
      else rise q i

def pop? (q : TimeQueue) : Option ((Int × String) × TimeQueue) :=
  match q[0]?, q.back? with
  | some first, some last =>
      let rest := q.pop
      if rest.isEmpty then some (first, rest)
      else some (first, sink rest.size (rest.setIfInBounds 0 last) 0)
  | _, _ => none

end TimeQueue

end CodeAtlas.History
