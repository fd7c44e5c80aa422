import Ramp.Disk.FileTree
import Ramp.Json.Decode
import Ramp.Main
import Ramp.Proofs.Filling
import Ramp.Proofs.Interchange
import Ramp.Proofs.Registration
import Ramp.Proofs.Separation
import Ramp.Proofs.Spelling
import Ramp.Proofs.LastWriter
import Ramp.Proofs.WholeAmounts
import Ramp.Proofs.JsonText
import Ramp.Proofs.Outcome
import Ramp.Proofs.SettingsText
import Ramp.Proofs.Succession
import Ramp.Proofs.Installation
import Ramp.Proofs.OverflowReport
import Ramp.Proofs.SettingsFields
import Ramp.Proofs.Interruption
import Ramp.Proofs.Transcription
import Ramp.Proofs.TypeChoice
import Ramp.Proofs.ArrayText
import Ramp.Proofs.NumeralGrammar
import Ramp.Proofs.LevelFilter
import Ramp.Proofs.Telling
import Ramp.Proofs.ErrorKinds
import Ramp.Proofs.Ascent
import Ramp.Proofs.Naming
