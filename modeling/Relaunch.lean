import Relaunch.Main
import Relaunch.Proofs.Account
import Relaunch.Proofs.Escapes
import Relaunch.Proofs.Safety
import Relaunch.Proofs.SingleInstance
import Relaunch.Proofs.Places
import Relaunch.Proofs.Territory
import Relaunch.Proofs.FileWork
import Relaunch.Proofs.Limits
import Relaunch.Proofs.LaunchStages
import Relaunch.Proofs.LaunchEffects
import Relaunch.Proofs.LaunchFaults
import Relaunch.Proofs.Backstage
import Relaunch.Proofs.RestartStages
import Relaunch.Proofs.Definitions
import Relaunch.Proofs.Program
import Relaunch.Proofs.ExitCodes
import Relaunch.Proofs.Listing
import Relaunch.Proofs.Readback
import Relaunch.Proofs.Reports
import Relaunch.Proofs.Sightings
import Relaunch.Proofs.Departure
import Relaunch.Proofs.Probing
import Relaunch.Proofs.Waiting
import Relaunch.Proofs.LimitHistory
import Relaunch.Proofs.Order
import Relaunch.Proofs.LogHistory
import Relaunch.Proofs.Doubles
import Relaunch.Proofs.SettingsLayers
import Relaunch.Proofs.DefinitionLayers
import Relaunch.Proofs.Agreement
import Relaunch.Proofs.Pairs
import Relaunch.Proofs.Twins
import Relaunch.Proofs.Passing
import Relaunch.Proofs.DoubleDash
import Relaunch.Proofs.Discretion
import Relaunch.Proofs.LogPaths
import Relaunch.Proofs.JournalHistory
