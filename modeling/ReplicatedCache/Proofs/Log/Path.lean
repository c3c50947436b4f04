/-
Paths and what stands above them.

* `intercalate_pieces`, `pieces_intercalate`: a path is put together again from its pieces, and the
  pieces are found again in it;
* `trimPieces_append`: what is left out at the end of a path leads nowhere;
* `enter_append`: steps are taken one part after the other;
* `resolve_of_enter`: a path whose steps can all be taken leads to a directory;
* `resolve_parent`: **parents**: above a path to a device there is a directory;
* `makeParents_of_device`: nothing is created above a device.
-/
import Mathlib.Data.List.DropRight
import Mathlib.Tactic.Lemma
import ReplicatedCache.Log.Disk

namespace ReplicatedCache

namespace Text

lemma splitWhere_eq_splitOn (x : Char) (cs : List Char) :
    splitWhere (fun c => c = x) cs = cs.splitOn x := by
  induction cs with
  | nil => rfl
  | cons c cs ih =>
      rw [splitWhere, ih, List.splitOn_cons_eq_if_modifyHead]
      by_cases hc : c = x
      · simp [hc]
      · cases hcs : cs.splitOn x with
        | nil => exact absurd hcs (List.splitOn_ne_nil x cs)
        | cons piece pieces => simp [hc]

lemma not_mem_of_mem_splitOn {x : Char} {cs piece : List Char} (h : piece ∈ cs.splitOn x) :
    x ∉ piece := by
  induction cs generalizing piece with
  | nil =>
      rw [List.splitOn_nil, List.mem_singleton] at h
      simp [h]
  | cons c cs ih =>
      rw [List.splitOn_cons_eq_if_modifyHead] at h
      by_cases hc : c = x
      · rw [if_pos (by simp [hc]), List.mem_cons] at h
        rcases h with rfl | h
        · exact List.not_mem_nil
        · exact ih h
      · rw [if_neg (by simp [hc])] at h
        cases hcs : cs.splitOn x with
        | nil => exact absurd hcs (List.splitOn_ne_nil x cs)
        | cons first rest =>
            rw [hcs] at ih h
            rw [List.modifyHead_cons, List.mem_cons] at h
            rcases h with rfl | h
            · exact List.not_mem_cons_of_ne_of_not_mem (Ne.symm hc) (ih List.mem_cons_self)
            · exact ih (List.mem_cons_of_mem _ h)

end Text

namespace Disk

/-! ### The pieces of a path -/

lemma pieces_eq (path : String) : pieces path = (path.toList.splitOn '/').map String.ofList := by
  rw [pieces, Text.splitAtEach, Text.splitWhere_eq_splitOn]

lemma map_toList_pieces (path : String) :
    (pieces path).map String.toList = path.toList.splitOn '/' := by
  simp [pieces_eq, Function.comp_def]

lemma pieces_ne_nil (path : String) : pieces path ≠ [] := by
  simp [pieces_eq]

lemma slash_not_mem (path : String) {piece : String} (h : piece ∈ pieces path) :
    '/' ∉ piece.toList :=
  Text.not_mem_of_mem_splitOn (map_toList_pieces path ▸ List.mem_map_of_mem h)

/-- A path is put together again from its pieces. -/
lemma intercalate_pieces (path : String) : "/".intercalate (pieces path) = path := by
  rw [← String.toList_inj, String.toList_intercalate, map_toList_pieces]
  exact List.intercalate_splitOn '/'

/-- The pieces are found again in the path they make up. -/
lemma pieces_intercalate {ps : List String} (hne : ps ≠ []) (h : ∀ p ∈ ps, '/' ∉ p.toList) :
    pieces ("/".intercalate ps) = ps := by
  have hslash : ∀ cs ∈ ps.map String.toList, '/' ∉ cs := by
    intro cs hcs
    obtain ⟨p, hp, rfl⟩ := List.mem_map.mp hcs
    exact h p hp
  have hsplit := List.splitOn_intercalate '/' hslash (by simpa using hne)
  rw [pieces_eq, String.toList_intercalate]
  exact (congrArg (List.map String.ofList) hsplit).trans (by simp [Function.comp_def])

/-- What is left out at the end of a path leads nowhere. -/
lemma trimPieces_append (ps : List String) :
    ∃ qs, ps = trimPieces ps ++ qs ∧ ∀ q ∈ qs, q = "" ∨ q = "." := by
  refine ⟨(ps.reverse.takeWhile fun piece => piece = "" || piece = ".").reverse, ?_, ?_⟩
  · rw [trimPieces, ← List.reverse_append, List.takeWhile_append_dropWhile, List.reverse_reverse]
  · intro q hq
    have := List.mem_takeWhile_imp (List.mem_reverse.mp hq)
    simpa using this

lemma trimPieces_concat {ps : List String} {p : String} (h : p ≠ "") (h' : p ≠ ".") :
    trimPieces (ps ++ [p]) = ps ++ [p] := by
  simp [trimPieces, h, h']

/-- The last piece that is kept is a step. -/
lemma last_trimPieces {ps qs : List String} {p : String} (h : trimPieces ps = qs ++ [p]) :
    p ≠ "" ∧ p ≠ "." := by
  have hdrop : (ps.reverse.dropWhile fun piece => piece = "" || piece = ".") = p :: qs.reverse := by
    rw [← List.reverse_inj, ← trimPieces, h]
    simp
  have hhead := List.head?_dropWhile_not (fun piece => piece = "" || piece = ".") ps.reverse
  rw [hdrop] at hhead
  simpa using hhead

/-! ### Taking the steps of a path -/

/-- Steps are taken one part after the other. -/
lemma enter_append (d : Disk) (way : List Nat) (ss ts : List String) :
    d.enter way (ss ++ ts) = (d.enter way ss).bind fun way => d.enter way ts := by
  induction ss generalizing way with
  | nil => rfl
  | cons s ss ih =>
      rw [List.cons_append, enter, enter]
      split
      · exact ih way
      · split
        · exact ih way.tail
        · split
          · rfl
          · split
            · rfl
            · rfl
            · exact ih _

/-- Single dots lead nowhere. -/
lemma enter_dots (d : Disk) (way : List Nat) {ss : List String} (h : ∀ s ∈ ss, s = ".") :
    d.enter way ss = .ok way := by
  induction ss with
  | nil => rfl
  | cons s ss ih =>
      rw [List.forall_mem_cons] at h
      rw [enter, if_pos h.1, ih h.2]

/-- Where the last step of a path is taken. -/
lemma place_concat {d : Disk} {path s : String} {ss : List String} (hpath : refusal? path = none)
    (hsteps : steps path = ss ++ [s]) :
    d.place path = (d.enter [] ss).map fun way =>
      if s = "." then .back (current way)
      else if s = ".." then .back (current way.tail)
      else .name (current way) s := by
  rw [place, hpath]
  simp only [hsteps, List.dropLast_concat, List.getLast?_concat]
  congr 1
  funext way
  split
  next h => exact absurd h (by simp)
  next h => rw [if_pos (Option.some.inj h)]
  next h =>
      obtain rfl := Option.some.inj h
      rw [if_neg (by decide), if_pos rfl]
  next name hdot hdots h =>
      obtain rfl := Option.some.inj h
      rw [if_neg hdot, if_neg hdots]

/-- **What a path leads to**: a directory on the way to it, or what its last name stands for. -/
lemma resolve_cases {d : Disk} {path : String} {entry : DirEntry}
    (h : d.resolve path = .ok entry) :
    (∃ directory, d.place path = .ok (.back directory) ∧ entry = .directory directory) ∨
      ∃ directory name, d.place path = .ok (.name directory name) ∧
        ¬ maxNameLength < name.utf8ByteSize ∧ d.lookup directory name = some entry ∧
        ∀ id, entry = .device id → endsInSlash path = false := by
  rw [resolve] at h
  cases hplace : d.place path with
  | error fault =>
      rw [hplace] at h
      cases h
  | ok last =>
      rw [hplace] at h
      cases last with
      | back directory => exact .inl ⟨directory, rfl, (Except.ok.inj h).symm⟩
      | name directory name =>
          right
          change (if maxNameLength < name.utf8ByteSize then _ else _) = _ at h
          split at h
          next => cases h
          next hlength =>
              refine ⟨directory, name, rfl, hlength, ?_⟩
              split at h
              next => cases h
              next id hlookup =>
                  obtain rfl := Except.ok.inj h
                  exact ⟨hlookup, fun _ hentry => by cases hentry⟩
              next id hlookup =>
                  split at h
                  next => cases h
                  next hslash =>
                      obtain rfl := Except.ok.inj h
                      exact ⟨hlookup, fun _ _ => by simpa using hslash⟩

lemma resolve_back {d : Disk} {path : String} {directory : Nat}
    (h : d.place path = .ok (.back directory)) : d.resolve path = .ok (.directory directory) := by
  rw [resolve, h]
  rfl

lemma resolve_directory {d : Disk} {path name : String} {directory id : Nat}
    (h : d.place path = .ok (.name directory name)) (hlength : ¬ maxNameLength < name.utf8ByteSize)
    (hlookup : d.lookup directory name = some (.directory id)) :
    d.resolve path = .ok (.directory id) := by
  rw [resolve, h]
  change (if maxNameLength < name.utf8ByteSize then _ else _) = _
  rw [if_neg hlength, hlookup]

/-- A path whose steps can all be taken leads to a directory. -/
lemma resolve_of_enter {d : Disk} {path : String} {way : List Nat} (hpath : refusal? path = none)
    (henter : d.enter [] (steps path) = .ok way) : ∃ id, d.resolve path = .ok (.directory id) := by
  rcases List.eq_nil_or_concat' (steps path) with hsteps | ⟨ss, s, hsteps⟩
  · have hplace : d.place path = .ok (.back 0) := by
      rw [place, hpath, hsteps]
      rfl
    exact ⟨0, resolve_back hplace⟩
  · have hplace := place_concat (d := d) hpath hsteps
    rw [hsteps, enter_append] at henter
    cases hss : d.enter [] ss with
    | error fault => simp [hss, Except.bind] at henter
    | ok way' =>
        simp only [hss, Except.map, Except.bind, enter] at hplace henter
        by_cases hdot : s = "."
        · rw [if_pos hdot] at hplace
          exact ⟨_, resolve_back hplace⟩
        · by_cases hdots : s = ".."
          · rw [if_neg hdot, if_pos hdots] at hplace
            exact ⟨_, resolve_back hplace⟩
          · rw [if_neg hdot, if_neg hdots] at hplace henter
            split at henter
            next => cases henter
            next hlength =>
                split at henter
                next => cases henter
                next => cases henter
                next id hlookup => exact ⟨id, resolve_directory hplace hlength hlookup⟩

/-! ### Above a device -/

/-- A path to a device ends in a name, which stands for the device. -/
lemma place_of_device {d : Disk} {path : String} {id : Nat}
    (h : d.resolve path = .ok (.device id)) :
    ∃ directory name, d.place path = .ok (.name directory name) ∧
      ¬ maxNameLength < name.utf8ByteSize ∧ d.lookup directory name = some (.device id) ∧
      endsInSlash path = false := by
  rcases resolve_cases h with ⟨directory, -, hentry⟩ |
    ⟨directory, name, hplace, hlength, hlookup, hslash⟩
  · cases hentry
  · exact ⟨directory, name, hplace, hlength, hlookup, hslash id rfl⟩

lemma refusal?_of_place {d : Disk} {path : String} {last : LastStep}
    (h : d.place path = .ok last) : refusal? path = none := by
  rw [place] at h
  split at h
  next => cases h
  next hpath => exact hpath

/-- The pieces in front of the name of a device lead somewhere. -/
lemma enter_of_device {d : Disk} {path : String} {id : Nat}
    (h : d.resolve path = .ok (.device id)) :
    ∃ ps name way, pieces path = ps ++ [name] ∧ name ≠ "" ∧ name ≠ "." ∧
      d.enter [] (ps.filter fun piece => piece ≠ "") = .ok way := by
  obtain ⟨directory, last, hplace, -, -, hslash⟩ := place_of_device h
  obtain ⟨ps, name, hpieces⟩ := (List.eq_nil_or_concat' (pieces path)).resolve_left
    (pieces_ne_nil path)
  have hname : name ≠ "" := by
    rw [endsInSlash, hpieces, List.getLast?_concat] at hslash
    simpa using hslash
  have hsteps : steps path = (ps.filter fun piece => piece ≠ "") ++ [name] := by
    rw [steps, hpieces, List.filter_append, List.filter_cons_of_pos (by simpa using hname)]
    rfl
  have hlast := place_concat (d := d) (refusal?_of_place hplace) hsteps
  rw [hplace] at hlast
  cases henter : d.enter [] (ps.filter fun piece => piece ≠ "") with
  | error fault =>
      rw [henter] at hlast
      cases hlast
  | ok way =>
      refine ⟨ps, name, way, hpieces, hname, ?_, henter⟩
      rintro rfl
      rw [henter] at hlast
      cases hlast

lemma refusal?_of_append {above rest : String} (h : refusal? (above ++ rest) = none)
    (hne : above ≠ "") : refusal? above = none := by
  rw [refusal?] at h ⊢
  rw [String.toList_append, List.any_append, String.utf8ByteSize_append] at h
  split at h
  next => cases h
  next hzero =>
      split at h
      next => cases h
      next hlength =>
          rw [Bool.or_eq_true, not_or] at hzero
          rw [if_neg hzero.1, if_neg (by omega), if_neg hne]

/-- A path is the path of its first pieces and what follows them. -/
lemma eq_intercalate_append {path : String} {ts us : List String} (h : pieces path = ts ++ us)
    (ht : ts ≠ []) (hu : us ≠ []) :
    path = "/".intercalate ts ++ ("/" ++ "/".intercalate us) := by
  rw [← intercalate_pieces path, h, String.intercalate_append_of_ne_nil ht hu, String.append_assoc]

/-- **Parents**: above a path to a device there is a directory. -/
lemma resolve_parent {d : Disk} {path above : String} {id : Nat}
    (h : d.resolve path = .ok (.device id)) (habove : parent? path = some above) :
    ∃ id, d.resolve above = .ok (.directory id) := by
  obtain ⟨ps, name, way, hpieces, hname, hdot, henter⟩ := enter_of_device h
  obtain ⟨directory, last, hplace, -⟩ := place_of_device h
  rw [parent?, hpieces, trimPieces_concat hname hdot, List.dropLast_concat] at habove
  obtain ⟨hne, rfl⟩ : trimPieces ps ≠ [] ∧ "/".intercalate (trimPieces ps) = above := by
    split at habove
    next => cases habove
    next hne => exact ⟨hne, Option.some.inj habove⟩
  obtain ⟨qs, hqs, hblank⟩ := trimPieces_append ps
  -- from here on the kept pieces are a list `ts` of their own
  have hlast : ∀ rs r, trimPieces ps = rs ++ [r] → r ≠ "" := fun _ _ h => (last_trimPieces h).1
  generalize trimPieces ps = ts at hne hqs hlast
  subst hqs
  have hpiecesAbove : pieces ("/".intercalate ts) = ts := by
    refine pieces_intercalate hne fun p hp => slash_not_mem path ?_
    rw [hpieces]
    simp [hp]
  have henterAbove : d.enter [] (steps ("/".intercalate ts)) = .ok way := by
    rw [steps, hpiecesAbove]
    rw [List.filter_append, enter_append] at henter
    cases hts : d.enter [] (ts.filter fun piece => piece ≠ "") with
    | error fault =>
        rw [hts] at henter
        cases henter
    | ok way' =>
        rw [hts] at henter
        refine (enter_dots d way' fun q hq => ?_).symm.trans henter
        obtain ⟨hq, hne⟩ := List.mem_filter.mp hq
        exact (hblank q hq).resolve_left (of_decide_eq_true hne)
  have hrefusal : refusal? ("/".intercalate ts) = none := by
    have hpath := refusal?_of_place hplace
    rw [eq_intercalate_append (hpieces.trans (List.append_assoc ..)) hne (by simp)] at hpath
    refine refusal?_of_append hpath fun hempty => ?_
    rw [hempty] at hpiecesAbove
    exact hlast [] "" hpiecesAbove.symm rfl
  exact resolve_of_enter hrefusal henterAbove

/-! ### Creating directories that are there -/

lemma makeDirectory_of_directory {d : Disk} {path : String} {id : Nat}
    (h : d.resolve path = .ok (.directory id)) : d.makeDirectory path = .error .alreadyExists := by
  rw [makeDirectory]
  rcases resolve_cases h with ⟨directory, hplace, -⟩ |
    ⟨directory, name, hplace, hlength, hlookup, -⟩
  · rw [hplace]
    rfl
  · rw [hplace]
    change (if maxNameLength < name.utf8ByteSize then _ else _) = _
    rw [if_neg hlength, hlookup]

lemma ancestors_eq_cons (path : String) : ∃ above, ancestors path = path :: above := by
  rw [ancestors]
  cases (pieces path).length with
  | zero => exact ⟨[], rfl⟩
  | succ n =>
      rw [ancestors.go]
      split
      · exact ⟨_, rfl⟩
      · exact ⟨[], rfl⟩

/-- Directories that are there are not created. -/
lemma makeDirectories_of_directory {d : Disk} {path : String} {id : Nat}
    (h : d.resolve path = .ok (.directory id)) : d.makeDirectories path = (none, d) := by
  obtain ⟨above, habove⟩ := ancestors_eq_cons path
  have hdirectory : d.isDirectory path = true := by rw [isDirectory, h]
  rw [makeDirectories, habove, makeChain, makeDirectory_of_directory h]
  simp only
  rw [if_neg (by decide), if_pos hdirectory]

/-- Nothing is created above a device. -/
lemma makeParents_of_device {d : Disk} {path : String} {id : Nat}
    (h : d.resolve path = .ok (.device id)) : d.makeParents path = (none, d) := by
  rw [makeParents]
  split
  next above habove =>
      obtain ⟨id', hid⟩ := resolve_parent h habove
      exact makeDirectories_of_directory hid
  next => rfl

end Disk

end ReplicatedCache
