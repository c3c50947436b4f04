/-
A log on a device: opening it, reading it and writing on it.

* `device?_append`: appending changes the device it is meant for;
* `resolve_append`: it changes no directory, so every path leads where it led;
* `Holds`, `Holds.append`: a device that keeps what it accepts, with its content;
* `Holds.openAt`: opening a log on such a device adds a line feed at most;
* `eq_of_openAt`: a writer that opens a log, or creates it, writes to what the path leads to;
* `HasFile`: **a regular file** at a path, with its number and its content;
* `HasFile.append`: bytes appended to the file are behind its content;
* `HasFile.openAt`: **opening** the file ends a partial line at its end and changes nothing else;
* `HasFile.replayFile`: replaying the file replays its content.
-/
import ReplicatedCache.Proofs.Log.Path
import ReplicatedCache.Proofs.Log.Writing

namespace ReplicatedCache

namespace Disk

variable {d : Disk} {path : String} {id : Nat}

/-! ### Appending to one device -/

/-- Appending changes the device it is meant for. -/
lemma device?_append {device : Device} (h : d.device? id = some device) (sync : Bool) (bs : Bytes) :
    (d.append id sync bs).1 = (device.append sync bs).1 ∧
      (d.append id sync bs).2.device? id = some (device.append sync bs).2 := by
  rw [append, h]
  rw [device?] at h
  obtain ⟨hid, -⟩ := Array.getElem?_eq_some_iff.mp h
  refine ⟨rfl, ?_⟩
  simp only [device?]
  rw [Array.getElem?_setIfInBounds_self_of_lt hid]

lemma directories_append (d : Disk) (id : Nat) (sync : Bool) (bs : Bytes) :
    (d.append id sync bs).2.directories = d.directories := by
  rw [append]
  split <;> rfl

section Congr

variable {d' : Disk} (hd : d'.directories = d.directories)

include hd in
lemma lookup_congr (directory : Nat) (name : String) :
    d'.lookup directory name = d.lookup directory name := by
  rw [lookup, lookup, hd]

include hd in
lemma enter_congr (way : List Nat) (ss : List String) : d'.enter way ss = d.enter way ss := by
  induction ss generalizing way with
  | nil => rfl
  | cons s ss ih => simp only [enter, ih, lookup_congr hd]

include hd in
lemma place_congr (path : String) : d'.place path = d.place path := by
  rw [place, place]
  simp only [enter_congr hd]

include hd in
/-- What a path leads to depends on the directories alone. -/
lemma resolve_congr (path : String) : d'.resolve path = d.resolve path := by
  rw [resolve, resolve, place_congr hd]
  simp only [lookup_congr hd]

end Congr

/-- Appending lets every path lead where it led. -/
lemma resolve_append (d : Disk) (id : Nat) (sync : Bool) (bs : Bytes) (path : String) :
    (d.append id sync bs).2.resolve path = d.resolve path :=
  resolve_congr (directories_append d id sync bs) path

/-! ### Any device -/

/-- A device that keeps what it accepts, with its content. -/
def Holds (d : Disk) (id : Nat) (content : Bytes) : Prop :=
  ∃ device, d.device? id = some device ∧ device.Keeping ∧ device.content = content

lemma Holds.contentOf_eq {content : Bytes} (h : d.Holds id content) : d.contentOf id = content := by
  obtain ⟨device, hdevice, -, rfl⟩ := h
  rw [contentOf, hdevice]

/-- A keeping device keeps what it holds and what it accepts, which is all of the bytes unless
there is a fault. -/
lemma Holds.append {content : Bytes} (h : d.Holds id content) (sync : Bool) (bs : Bytes) :
    ∃ accepted, accepted <+: bs ∧ (d.append id sync bs).2.Holds id (content ++ accepted) ∧
      ((d.append id sync bs).1 = none → accepted = bs) := by
  obtain ⟨device, hdevice, hkeeping, rfl⟩ := h
  obtain ⟨hfault, hdevice'⟩ := device?_append hdevice sync bs
  obtain ⟨hkeeping', accepted, hstart, hcontent, hall⟩ := Device.append_keeping hkeeping sync bs
  exact ⟨accepted, hstart, ⟨_, hdevice', hkeeping', hcontent⟩, fun h => hall (hfault ▸ h)⟩

/-- A record that is written without a fault is behind the content. -/
lemma Holds.append_ok {content : Bytes} {w : LogWriter} {op : Operation}
    (h : d.Holds w.device content) (happend : (w.append d op).1 = .ok ()) :
    ∃ d', w.append d op = (.ok (), { w with torn := false, records := w.records + 1 }, d') ∧
      d'.Holds w.device (content ++ LogWriter.line w.torn op) := by
  obtain ⟨accepted, -, hholds, hall⟩ := h.append w.fsync (LogWriter.line w.torn op)
  rcases hdisk : d.append w.device w.fsync (LogWriter.line w.torn op) with ⟨fault, d'⟩
  rw [hdisk] at hholds hall
  cases fault with
  | none =>
      obtain rfl := hall rfl
      exact ⟨d', LogWriter.append_done hdisk, hholds⟩
  | some fault =>
      obtain ⟨fault', hfailed⟩ := LogWriter.append_failed hdisk
      rw [hfailed] at happend
      cases happend

/-- Opening a device for appending finds it and changes nothing. -/
lemma openAppend_of_device (h : d.resolve path = .ok (.device id)) :
    d.openAppend path = .ok (id, d) := by
  obtain ⟨directory, name, hplace, hlength, hlookup, hslash⟩ := place_of_device h
  rw [openAppend, hplace]
  change (if endsInSlash path = true then _ else _) = _
  rw [if_neg (by simp [hslash]), if_neg hlength, hlookup]

/-- Opening a log on a device ends a partial line at its end. -/
lemma openAt_of_device (h : d.resolve path = .ok (.device id)) (fsync : Bool) :
    LogWriter.openAt d path fsync =
      if LogWriter.endsInsideLine (d.contentOf id) then
        ((d.append id false [Log.lineFeed]).1.elim (.ok ⟨id, some path, fsync, 0, false⟩)
          fun fault => .error (LogWriter.cannotOpen path fault),
        (d.append id false [Log.lineFeed]).2)
      else (.ok ⟨id, some path, fsync, 0, false⟩, d) := by
  rw [LogWriter.openAt, makeParents_of_device h]
  simp only [openAppend_of_device h]
  split
  · cases d.append id false [Log.lineFeed] with
    | mk fault d' =>
        cases fault with
        | none => rfl
        | some fault => rfl
  · rfl

/-- **Opening a log** adds a line feed at most, changes no directory and, if it succeeds, leaves the
log where a new line starts. -/
lemma Holds.openAt {content : Bytes} (h : d.Holds id content)
    (hpath : d.resolve path = .ok (.device id)) (fsync : Bool) :
    ∃ added, added <+: [Log.lineFeed] ∧
      (LogWriter.openAt d path fsync).2.Holds id (content ++ added) ∧
      (LogWriter.openAt d path fsync).2.directories = d.directories ∧
      ∀ w, (LogWriter.openAt d path fsync).1 = .ok w →
        w = ⟨id, some path, fsync, 0, false⟩ ∧ Log.EndsLine (content ++ added) := by
  rw [openAt_of_device hpath, h.contentOf_eq]
  split
  next =>
      obtain ⟨added, hadded, hholds, hall⟩ := h.append false [Log.lineFeed]
      have hdirectories := directories_append d id false [Log.lineFeed]
      refine ⟨added, hadded, hholds, hdirectories, fun w hw => ?_⟩
      cases hfault : (d.append id false [Log.lineFeed]).1 with
      | some fault =>
          rw [hfault] at hw
          cases hw
      | none =>
          rw [hfault] at hw
          refine ⟨(Except.ok.inj hw).symm, ?_⟩
          rw [hall hfault]
          exact Log.endsLine_concat content
  next hends =>
      rw [Bool.not_eq_true, Log.endsInsideLine_eq_false_iff] at hends
      refine ⟨[], List.nil_prefix, ?_, rfl, fun w hw => ⟨(Except.ok.inj hw).symm, ?_⟩⟩
      · rwa [List.append_nil]
      · rwa [List.append_nil]

/-! ### Files that are created -/

/-- Names that are in use keep what they stand for when another one is added. -/
lemma lookup_bind {directory directory' : Nat} {name name' : String} {entry entry' : DirEntry}
    (h : d.lookup directory' name' = some entry') :
    (d.bind directory name entry).lookup directory' name' = some entry' := by
  rw [lookup] at h
  obtain ⟨names, hnames, hname⟩ := Option.bind_eq_some_iff.mp h
  rw [lookup, bind, Array.getElem?_modify, hnames]
  split
  · exact (List.lookup_append ..).trans (by rw [hname]; rfl)
  · exact hname

/-- A name that was not in use stands for what it was added for. -/
lemma eq_of_lookup_bind {directory : Nat} {name : String} {entry entry' : DirEntry}
    (hnone : d.lookup directory name = none)
    (h : (d.bind directory name entry).lookup directory name = some entry') : entry' = entry := by
  rw [lookup, bind, Array.getElem?_modify, if_pos rfl] at h
  rw [lookup] at hnone
  cases hnames : d.directories[directory]? with
  | none =>
      rw [hnames] at h
      cases h
  | some names =>
      rw [hnames] at h hnone
      have hnone' : names.lookup name = none := hnone
      have hfound : (names ++ [(name, entry)]).lookup name = some entry' := h
      rw [List.lookup_append, hnone'] at hfound
      simpa [eq_comm] using hfound

/-- Where every name keeps what it stands for, the steps of a path lead where they led. -/
lemma enter_mono {d' : Disk}
    (hd : ∀ directory name entry, d.lookup directory name = some entry →
      d'.lookup directory name = some entry) {way way' : List Nat} {ss : List String}
    (h : d.enter way ss = .ok way') : d'.enter way ss = .ok way' := by
  induction ss generalizing way with
  | nil => exact h
  | cons s ss ih =>
      rw [enter] at h ⊢
      split
      next hs =>
          rw [if_pos hs] at h
          exact ih h
      next hs =>
          rw [if_neg hs] at h
          split
          next hs' =>
              rw [if_pos hs'] at h
              exact ih h
          next hs' =>
              rw [if_neg hs'] at h
              split
              next hlong =>
                  rw [if_pos hlong] at h
                  cases h
              next hlong =>
                  rw [if_neg hlong] at h
                  cases hlookup : d.lookup (current way) s with
                  | none =>
                      rw [hlookup] at h
                      cases h
                  | some entry =>
                      rw [hlookup] at h
                      rw [hd _ _ _ hlookup]
                      cases entry with
                      | directory id => exact ih h
                      | device id => cases h

lemma place_mono {d' : Disk}
    (hd : ∀ directory name entry, d.lookup directory name = some entry →
      d'.lookup directory name = some entry) {last : LastStep}
    (h : d.place path = .ok last) : d'.place path = .ok last := by
  rw [place] at h ⊢
  cases hrefusal : refusal? path with
  | some fault =>
      rw [hrefusal] at h
      cases h
  | none =>
      rw [hrefusal] at h
      cases henter : d.enter [] (steps path).dropLast with
      | error fault =>
          simp only [henter] at h
          cases h
      | ok way =>
          simp only [henter] at h
          simp only [enter_mono hd henter]
          exact h

/-- **What opening for appending does**: it finds a device, or it adds a name for a new file. -/
lemma openAppend_cases {d' : Disk} (h : d.openAppend path = .ok (id, d')) :
    ∃ directory name, d.place path = .ok (.name directory name) ∧
      (d.lookup directory name = some (.device id) ∧ d' = d ∨
        d.lookup directory name = none ∧
          d' = (d.attach (.file [])).2.bind directory name (.device id)) := by
  rw [openAppend] at h
  cases hplace : d.place path with
  | error fault =>
      rw [hplace] at h
      cases h
  | ok last =>
      rw [hplace] at h
      cases last with
      | back directory => cases h
      | name directory name =>
          refine ⟨directory, name, rfl, ?_⟩
          change (if endsInSlash path = true then _ else _) = _ at h
          split at h
          next => cases h
          next =>
              split at h
              next => cases h
              next =>
                  split at h
                  next => cases h
                  next i hlookup =>
                      obtain ⟨rfl, rfl⟩ := Prod.mk.inj (Except.ok.inj h)
                      exact .inl ⟨hlookup, rfl⟩
                  next hlookup =>
                      obtain ⟨rfl, rfl⟩ := Prod.mk.inj (Except.ok.inj h)
                      exact .inr ⟨hlookup, rfl⟩

/-- What is opened for appending is what the path leads to. -/
lemma eq_of_openAppend {d' : Disk} {id' : Nat} (hopen : d.openAppend path = .ok (id', d'))
    (h : d'.resolve path = .ok (.device id)) : id' = id := by
  obtain ⟨directory', name', hplace', -, hlookup', -⟩ := place_of_device h
  obtain ⟨directory, name, hplace, ⟨hlookup, rfl⟩ | ⟨hlookup, rfl⟩⟩ := openAppend_cases hopen
  · obtain ⟨rfl, rfl⟩ := LastStep.name.inj (Except.ok.inj (hplace.symm.trans hplace'))
    rw [hlookup] at hlookup'
    exact DirEntry.device.inj (Option.some.inj hlookup')
  · have hdirectories : (d.attach (.file [])).2.directories = d.directories := rfl
    have hattach := (place_congr hdirectories path).trans hplace
    have hkeep : ((d.attach (.file [])).2.bind directory name (.device id')).place path =
        .ok (.name directory name) := place_mono (fun _ _ _ => lookup_bind) hattach
    obtain ⟨rfl, rfl⟩ := LastStep.name.inj (Except.ok.inj (hkeep.symm.trans hplace'))
    exact (DirEntry.device.inj (eq_of_lookup_bind hlookup hlookup')).symm

/-- A writer that opens a log writes to what the path leads to. -/
lemma eq_of_openAt {d' : Disk} {fsync : Bool} {w : LogWriter}
    (hopen : LogWriter.openAt d path fsync = (.ok w, d'))
    (h : d'.resolve path = .ok (.device id)) : w = ⟨id, some path, fsync, 0, false⟩ := by
  rw [LogWriter.openAt] at hopen
  cases hparents : d.makeParents path with
  | mk fault d₁ =>
      cases fault with
      | some fault =>
          simp only [hparents] at hopen
          cases hopen
      | none =>
          simp only [hparents] at hopen
          cases happend : d₁.openAppend path with
          | error fault =>
              simp only [happend] at hopen
              cases hopen
          | ok opened =>
              obtain ⟨id', d₂⟩ := opened
              simp only [happend] at hopen
              split at hopen
              next =>
                  cases hline : d₂.append id' false [Log.lineFeed] with
                  | mk fault d₃ =>
                      have hresolve := resolve_append d₂ id' false [Log.lineFeed] path
                      rw [hline] at hresolve hopen
                      cases fault with
                      | some fault => cases hopen
                      | none =>
                          obtain ⟨hw, rfl⟩ := Prod.mk.inj hopen
                          obtain rfl := eq_of_openAppend happend (hresolve.symm.trans h)
                          exact (Except.ok.inj hw).symm
              next =>
                  obtain ⟨hw, rfl⟩ := Prod.mk.inj hopen
                  obtain rfl := eq_of_openAppend happend h
                  exact (Except.ok.inj hw).symm

/-! ### Regular files -/

/-- **A regular file** at a path, with its number and its content. -/
structure HasFile (d : Disk) (path : String) (id : Nat) (content : Bytes) : Prop where
  resolve_eq : d.resolve path = .ok (.device id)
  device_eq : d.device? id = some (.file content)

lemma hasFile_of_fileContent {content : Bytes} (h : d.fileContent path = some content) :
    ∃ id, d.HasFile path id content := by
  rw [fileContent] at h
  split at h
  next id hresolve =>
      split at h
      next content' hdevice =>
          obtain rfl := Option.some.inj h
          exact ⟨id, hresolve, hdevice⟩
      next => cases h
  next => cases h

namespace HasFile

variable {content : Bytes} (h : d.HasFile path id content)

include h

lemma contentOf_eq : d.contentOf id = content := by
  rw [contentOf, h.device_eq]
  rfl

lemma read_eq : d.read path = .ok content := by
  rw [read, h.resolve_eq, ← h.contentOf_eq]

/-- Bytes appended to the file stand behind its content. -/
lemma append (sync : Bool) (bs : Bytes) :
    (d.append id sync bs).1 = none ∧ (d.append id sync bs).2.HasFile path id (content ++ bs) := by
  obtain ⟨hfault, hdevice⟩ := device?_append h.device_eq sync bs
  exact ⟨hfault, (resolve_append d id sync bs path).trans h.resolve_eq, hdevice⟩

end HasFile

/-- A file that is empty once it has been opened was empty before. -/
lemma hasFile_of_openAt_nil {fsync : Bool} (hpath : d.resolve path = .ok (.device id))
    (hempty : (LogWriter.openAt d path fsync).2.fileContent path = some []) :
    d.HasFile path id [] := by
  rw [openAt_of_device hpath] at hempty
  split at hempty
  next hinside =>
      obtain ⟨id', hresolve, hfile⟩ := hasFile_of_fileContent hempty
      rw [resolve_append, hpath] at hresolve
      obtain rfl := DirEntry.device.inj (Except.ok.inj hresolve)
      cases hdevice : d.device? id with
      | none =>
          rw [contentOf, hdevice] at hinside
          cases hinside
      | some device =>
          -- a file that has taken a line feed is not empty
          have hnew := (device?_append hdevice false [Log.lineFeed]).2.symm.trans hfile
          obtain ⟨content, -, hcontent⟩ := Device.append_eq_file (Option.some.inj hnew)
          simp at hcontent
  next =>
      obtain ⟨id', hresolve, hfile⟩ := hasFile_of_fileContent hempty
      rw [hpath] at hresolve
      obtain rfl := DirEntry.device.inj (Except.ok.inj hresolve)
      exact ⟨hpath, hfile⟩

end Disk

namespace Disk.HasFile

variable {d : Disk} {path : String} {id : Nat} {content : Bytes} (h : d.HasFile path id content)

include h

/-- **Opening** the file ends a partial line at its end and changes nothing else. -/
lemma openAt (fsync : Bool) :
    ∃ d', LogWriter.openAt d path fsync = (.ok ⟨id, some path, fsync, 0, false⟩, d') ∧
      d'.HasFile path id (Log.terminated content) := by
  rw [openAt_of_device h.resolve_eq, h.contentOf_eq, Log.terminated]
  split
  · obtain ⟨hfault, hfile⟩ := h.append false [Log.lineFeed]
    refine ⟨_, ?_, hfile⟩
    rw [hfault]
    rfl
  · exact ⟨d, rfl, h⟩

/-- Replaying the file replays its content. -/
lemma replayFile_eq (c : Cache) (now : Moment) :
    Log.replayFile d path c now =
      (.ok (Log.replay content c now).1, (Log.replay content c now).2) := by
  rw [Log.replayFile, h.read_eq]

end Disk.HasFile

end ReplicatedCache
