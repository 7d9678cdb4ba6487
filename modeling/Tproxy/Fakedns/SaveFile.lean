import Tproxy.Fakedns.Save

namespace Tproxy

/-- The calls of `fakedns_save` that may fail. -/
inductive SaveStep
  | fopen
  | fwrite
  | fseek
  | fflush
  | fsync
  | rename
deriving DecidableEq

/-- What the system answers to the calls, by their number: `none` is success.
A failed `fwrite` leaves any content in the temporary file. -/
abbrev SaveAnswers := Nat → Option (List UInt8)

/-- The files by their paths, the content and the position of the stream `fp`,
and the calls made so far with their success. -/
structure FakednsSaving where
  files : List UInt8 → Option (List UInt8)
  content : List UInt8
  pos : Nat
  log : List (SaveStep × Bool)

section Calls

variable (answers : SaveAnswers)

def saveCall (step : SaveStep) (st : FakednsSaving) : FakednsSaving × Bool :=
  let ok := (answers st.log.length).isNone
  ({ st with log := st.log ++ [(step, ok)] }, ok)

/-- Bytes written at the position of the stream. -/
def FakednsSaving.put (st : FakednsSaving) (bytes : List UInt8) : FakednsSaving :=
  { st with
    content := st.content.take st.pos ++ bytes ++ st.content.drop (st.pos + bytes.length)
    pos := st.pos + bytes.length }

def saveClose (tmpPath : List UInt8) (st : FakednsSaving) : FakednsSaving :=
  { st with files := Function.update st.files tmpPath (some st.content) }

def saveUnlink (tmpPath : List UInt8) (st : FakednsSaving) : FakednsSaving :=
  { st with files := Function.update st.files tmpPath none }

/-- `rename`, which does nothing for two equal paths, or `unlink` after it failed. -/
def saveRename (tmpPath path : List UInt8) (st : FakednsSaving) : FakednsSaving :=
  match saveCall answers .rename st with
  | (st, true) =>
    if tmpPath = path then st
    else
      { st with
        files := Function.update (Function.update st.files path (st.files tmpPath)) tmpPath none }
  | (st, false) => saveUnlink tmpPath st

end Calls

/-- The bytes of one record of a cache file. -/
def recordBytes (record : BitVec 32 × List UInt8) : List UInt8 :=
  fwriteLe 4 record.1.toNat ++ fwriteLe 2 record.2.length ++ record.2

/-- A whole cache file: its header counts the records in it. -/
structure FakednsCacheFile (file cidr : List UInt8) (records : List (BitVec 32 × List UInt8)) :
    Prop where
  bytes : file = fwriteLe 4 fakednsMagic ++ fwriteLe 4 fakednsVersion ++
    fwriteLe 4 records.length ++ fwriteLe 2 cidr.length ++ cidr ++ records.flatMap recordBytes
  count : records.length < 2 ^ 32
  cidr : cidr.length < 2 ^ 16
  domains : ∀ record ∈ records, record.2.length < 2 ^ 16

/-- What `fakedns_save` writes of a string. -/
def savedString (str : List UInt8) : List UInt8 := str.take (str.length % 2 ^ 16)

def savedRecord (entry : FakednsEntry) : BitVec 32 × List UInt8 :=
  (entry.ip, savedString (cStr entry.domain))

/-- Between two states only calls were made, all of them well if and only if
`ok`. The files are as before. -/
structure SaveCalls (before after : FakednsSaving) (ok : Bool) : Prop where
  files : after.files = before.files
  log : ∃ calls, after.log = before.log ++ calls ∧ (ok = true ↔ ∀ call ∈ calls, call.2 = true)

variable {answers : SaveAnswers} {st st' st'' : FakednsSaving} {ok ok' : Bool} {bytes : List UInt8}
  {fields : List (List UInt8)} {s : Fakedns} {now : BitVec 32} {slots : List Nat} {count : Nat}
  {files : List UInt8 → Option (List UInt8)} {path tmpPath : List UInt8}

section Calls

theorem SaveCalls.refl (st : FakednsSaving) : SaveCalls st st true :=
  ⟨rfl, [], (List.append_nil _).symm, by simp⟩

theorem SaveCalls.trans (first : SaveCalls st st' ok) (second : SaveCalls st' st'' ok') :
    SaveCalls st st'' (ok && ok') := by
  obtain ⟨calls, log, all⟩ := first.log
  obtain ⟨calls', log', all'⟩ := second.log
  refine ⟨second.files.trans first.files, calls ++ calls', ?_, ?_⟩
  · rw [log', log, List.append_assoc]
  · rw [Bool.and_eq_true, all, all', List.forall_mem_append]

theorem saveCall_calls (answers : SaveAnswers) (step : SaveStep) (st : FakednsSaving) :
    SaveCalls st (saveCall answers step st).1 (saveCall answers step st).2 :=
  ⟨rfl, _, rfl, by simp [saveCall]⟩

end Calls

section Content

/-- The stream stands at its end. -/
def FakednsSaving.AtEnd (st : FakednsSaving) : Prop := st.pos = st.content.length

theorem FakednsSaving.AtEnd.put (atEnd : st.AtEnd) (bytes : List UInt8) :
    (st.put bytes).content = st.content ++ bytes ∧ (st.put bytes).AtEnd := by
  have appended : (st.put bytes).content = st.content ++ bytes := by
    rw [FakednsSaving.put]
    simp only
    rw [atEnd, List.take_length, List.drop_of_length_le (Nat.le_add_right ..), List.append_nil]
  refine ⟨appended, ?_⟩
  rw [FakednsSaving.AtEnd, appended, List.length_append, ← atEnd]
  rfl

end Content

end Tproxy
