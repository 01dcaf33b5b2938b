import Mathlib.Data.List.Perm.Basic
import Mathlib.Data.List.Nodup
import Mhvtl.Lib.Run

/-!
# A desk that hands jobs out

Jobs come to a desk, wait there, are handed out in the order in which they came, and
leave, handed out or not, in any order. Over a run no job is lost or counted twice,
and what was handed out is what came in, in its order and once.
-/

namespace Mhvtl

/-- The jobs at a desk. -/
structure Desk (J : Type) where
  /-- Handed out and not yet gone. -/
  handed : List J
  /-- Not yet handed out, in the order in which they came. -/
  waiting : List J

namespace Desk

variable {J K : Type}

/-- Nothing to do. -/
def empty : Desk J := ⟨[], []⟩

/-- All jobs that are here. -/
def jobs (d : Desk J) : List J := d.handed ++ d.waiting

/-- What one step does to the jobs. -/
structure Turn (J : Type) where
  /-- The jobs that came. -/
  taken : List J
  /-- The jobs that were handed out. -/
  out : List J
  /-- The jobs that left. -/
  gone : List J

/-- Steps of a desk. -/
inductive Step : Desk J → Turn J → Desk J → Prop where
  /-- A job comes. -/
  | takes (d : Desk J) (j : J) : Step d ⟨[j], [], []⟩ ⟨d.handed, d.waiting ++ [j]⟩
  /-- The job that waited longest is handed out. -/
  | hands {d d' : Desk J} {j : J} (waiting : d.waiting = j :: d'.waiting)
      (handed : d'.handed.Perm (j :: d.handed)) : Step d ⟨[], [j], []⟩ d'
  /-- Some jobs leave, and those that wait keep their order. -/
  | leaves {d d' : Desk J} {gone : List J} (handed : d'.handed.Subset d.handed)
      (waiting : d'.waiting.Sublist d.waiting) (all : (gone ++ d'.jobs).Perm d.jobs) :
      Step d ⟨[], [], gone⟩ d'

/-- A step in which nothing happens. -/
theorem Step.rests (d : Desk J) : Step d ⟨[], [], []⟩ d :=
  Step.leaves (List.Subset.refl _) (List.Sublist.refl _) (List.Perm.refl _)

/-- A step loses no job. -/
theorem Step.accounts {d d' : Desk J} {t : Turn J} (h : Step d t d') :
    (d.jobs ++ t.taken).Perm (t.gone ++ d'.jobs) := by
  cases h with
  | takes j => simp [jobs, List.append_assoc]
  | hands waiting handed =>
    rw [List.append_nil, List.nil_append, jobs, jobs, waiting]
    exact List.perm_middle.trans (handed.append_right _).symm
  | leaves handed waiting all =>
    rw [List.append_nil]
    exact all.symm

/-- A step hands out in the order of coming. -/
theorem Step.in_order {d d' : Desk J} {t : Turn J} (h : Step d t d') :
    (t.out ++ d'.waiting).Sublist (d.waiting ++ t.taken) := by
  cases h with
  | takes j => exact List.Sublist.refl _
  | hands waiting handed => simp [waiting]
  | leaves handed waiting all =>
    rw [List.append_nil]
    exact waiting

/-- All that came in some steps. -/
def taken (ts : List (Turn J)) : List J := ts.flatMap Turn.taken

/-- All that was handed out in some steps. -/
def out (ts : List (Turn J)) : List J := ts.flatMap Turn.out

/-- All that left in some steps. -/
def gone (ts : List (Turn J)) : List J := ts.flatMap Turn.gone

variable {d d' : Desk J} {ts : List (Turn J)}

/-- A run loses no job. -/
theorem run_accounts (h : Run Step d ts d') : (d.jobs ++ taken ts).Perm (gone ts ++ d'.jobs) := by
  induction h with
  | nil d => simp [taken, gone]
  | @cons d d₁ d' t ts head tail ih =>
    have hhead := head.accounts.append_right (taken ts)
    have htail := ih.append_left t.gone
    simp only [List.append_assoc] at hhead htail
    simpa [taken, gone, List.append_assoc] using hhead.trans htail

/-- A run hands out in the order of coming. -/
theorem run_in_order (h : Run Step d ts d') :
    (out ts ++ d'.waiting).Sublist (d.waiting ++ taken ts) := by
  induction h with
  | nil d => simp [taken, out]
  | @cons d d₁ d' t ts head tail ih =>
    have hhead := head.in_order.append (List.Sublist.refl (taken ts))
    have htail := (List.Sublist.refl t.out).append ih
    simp only [List.append_assoc] at hhead htail
    simpa [taken, out, List.append_assoc] using htail.trans hhead

/-- From an empty desk: what came is what left and what is here. -/
theorem empty_accounts (h : Run Step empty ts d') : (taken ts).Perm (gone ts ++ d'.jobs) := by
  simpa [empty, jobs] using run_accounts h

/-- From an empty desk: what was handed out and what waits is a part of what came, in its order. -/
theorem empty_in_order (h : Run Step empty ts d') : (out ts ++ d'.waiting).Sublist (taken ts) := by
  simpa [empty] using run_in_order h

/-- Jobs that come once leave once, and are not here any more when they left. -/
theorem empty_gone_once (h : Run Step empty ts d') (key : J → K)
    (hkey : ((taken ts).map key).Nodup) : ((gone ts ++ d'.jobs).map key).Nodup :=
  ((empty_accounts h).map key).nodup_iff.mp hkey

/-- Jobs that come once are handed out once at most. -/
theorem empty_out_once (h : Run Step empty ts d') (key : J → K)
    (hkey : ((taken ts).map key).Nodup) : ((out ts ++ d'.waiting).map key).Nodup :=
  hkey.sublist ((empty_in_order h).map key)

end Desk

end Mhvtl
