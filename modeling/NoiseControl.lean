import NoiseControl.Main
import NoiseControl.Timer.Sleep
import NoiseControl.Proofs.Earbud.Work
import NoiseControl.Proofs.Earbud.Extent
import NoiseControl.Proofs.Earbud.Classification
import NoiseControl.Proofs.Earbud.PendingRequest
import NoiseControl.Proofs.Earbud.QuietFlag
import NoiseControl.Proofs.Earbud.ModeChange
import NoiseControl.Proofs.Earbud.StagedRequest
import NoiseControl.Proofs.Earbud.Refusal
import NoiseControl.Proofs.Pair.Agreement
import NoiseControl.Proofs.Pair.Election
import NoiseControl.Proofs.Earbud.History
import NoiseControl.Proofs.Earbud.TuningLink
import NoiseControl.Proofs.Earbud.GentleMute
import NoiseControl.Proofs.Earbud.FailedCommand
import NoiseControl.Proofs.Earbud.MutedGains
import NoiseControl.Proofs.QuietMode.CrossedRequests
import NoiseControl.Proofs.Earbud.AdaptiveProcessing
import NoiseControl.Proofs.Earbud.ModeSafety
import NoiseControl.Proofs.Earbud.ModeCoherence
import NoiseControl.Proofs.Trace
import NoiseControl.Proofs.QuietMode.Calls
import NoiseControl.Proofs.QuietMode.Silence
import NoiseControl.Proofs.QuietMode.Repetition
import NoiseControl.Proofs.QuietMode.Consistency
import NoiseControl.Proofs.QuietMode.Observation
import NoiseControl.Proofs.QuietMode.Duplicate
import NoiseControl.Proofs.Earbud.Reticence
import NoiseControl.Proofs.Earbud.Unpowered
import NoiseControl.Proofs.Earbud.GainPoll
import NoiseControl.Proofs.Earbud.PowerOff
import NoiseControl.Proofs.Earbud.AudioWithoutPower
import NoiseControl.Proofs.Earbud.WorkingHardware
import NoiseControl.Proofs.Earbud.CallTransparency
import NoiseControl.Proofs.Earbud.CallMarks
import NoiseControl.Proofs.Earbud.ChosenMode
import NoiseControl.Proofs.Earbud.PowerCycle
import NoiseControl.Proofs.Earbud.SwitchNotice
import NoiseControl.Proofs.Earbud.LeakthroughMirror
import NoiseControl.Proofs.Earbud.StrayPoll
import NoiseControl.Proofs.Earbud.Departure
import NoiseControl.Proofs.Pair.OnTime
import NoiseControl.Proofs.Pair.Settlement
import NoiseControl.Proofs.Pair.Arrival
import NoiseControl.Proofs.Timer.Agenda
import NoiseControl.Proofs.Timer.Acceptance
import NoiseControl.Proofs.Earbud.FixedFilters
import NoiseControl.Proofs.QuietMode.CommonInstant
import NoiseControl.Proofs.Earbud.DueInstant
import NoiseControl.Proofs.Earbud.Shutdown
import NoiseControl.Proofs.Earbud.ClockBoost
import NoiseControl.Proofs.Earbud.SessionParts
import NoiseControl.Proofs.Earbud.AdaptiveNotice
import NoiseControl.Proofs.Earbud.PeerAlignment
import NoiseControl.Proofs.QuietMode.EffectShape
import NoiseControl.Proofs.Text.Numerals
import NoiseControl.Proofs.Text.Words
import NoiseControl.Proofs.Console.Grammar
import NoiseControl.Proofs.Config.Precedence
import NoiseControl.Proofs.Json.Grammar
import NoiseControl.Proofs.Json.Strings
import NoiseControl.Proofs.Json.Lexing
import NoiseControl.Proofs.Json.Parsing
import NoiseControl.Proofs.Json.Printing
import NoiseControl.Proofs.Json.Fields
import NoiseControl.Proofs.QuietMode.RecordText
