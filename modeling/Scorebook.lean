import Scorebook.Table
import Scorebook.Decimal.Text
import Scorebook.Json.Value
import Scorebook.Json.Printer
import Scorebook.Json.Numeral
import Scorebook.Json.Token
import Scorebook.Json.Parser
import Scorebook.Text
import Scorebook.Json.Decoder
import Scorebook.Space
import Scorebook.Clock
import Scorebook.Ratio
import Scorebook.Selection
import Scorebook.Weapon
import Scorebook.GrenadeKind
import Scorebook.Actor
import Scorebook.Event.Codec
import Scorebook.Fault
import Scorebook.Config.Codec
import Scorebook.Movement
import Scorebook.Teams
import Scorebook.Record.RoundMark
import Scorebook.Record.Gunfight
import Scorebook.Record.Damage
import Scorebook.Record.Grenade
import Scorebook.Record.PlayerRound
import Scorebook.Record.PlayerMatch
import Scorebook.MatchState
import Scorebook.Impact
import Scorebook.Inspection
import Scorebook.Trade
import Scorebook.Buy
import Scorebook.GrenadeRating
import Scorebook.Handling.Kill
import Scorebook.Handling.Hurt
import Scorebook.Handling.Attendance
import Scorebook.Handling.Mark
import Scorebook.Closing.Round
import Scorebook.Closing.Match
import Scorebook.Processor
import Scorebook.Delivery.Sending
import Scorebook.CommandLine
import Scorebook.Main
import Scorebook.Proofs.Effects
import Scorebook.Proofs.Lookup
import Scorebook.Proofs.Stream
import Scorebook.Proofs.Safety
import Scorebook.Proofs.Course
import Scorebook.Proofs.Swaps
import Scorebook.Proofs.Registry
import Scorebook.Proofs.Sides
import Scorebook.Proofs.Counting
import Scorebook.Proofs.Conservation
import Scorebook.Proofs.Completeness
import Scorebook.Proofs.Score
import Scorebook.Proofs.Skipping
import Scorebook.Proofs.FlashOrder
import Scorebook.Proofs.History
import Scorebook.Proofs.Arsenal
import Scorebook.Proofs.Exposure
import Scorebook.Proofs.Correlation
import Scorebook.Proofs.Provenance
import Scorebook.Proofs.Ongoing
import Scorebook.Proofs.RoundTables
import Scorebook.Proofs.Restart
import Scorebook.Proofs.Assists
import Scorebook.Proofs.Combat
import Scorebook.Proofs.FightLog
import Scorebook.Proofs.LastStanding
import Scorebook.Proofs.Clutches
import Scorebook.Proofs.ImpactContext
import Scorebook.Proofs.Batching
import Scorebook.Proofs.Delivery
import Scorebook.Proofs.Introductions
import Scorebook.Proofs.Labels
import Scorebook.Proofs.Living
import Scorebook.Proofs.ManCount
import Scorebook.Proofs.Throwers
import Scorebook.Proofs.Choosing
import Scorebook.Proofs.Trades
import Scorebook.Proofs.TradedDeaths
import Scorebook.Proofs.GrenadeCredit
import Scorebook.Proofs.Hits
import Scorebook.Proofs.HealthTaken
import Scorebook.Proofs.RoundRecords
import Scorebook.Proofs.Reclosing
import Scorebook.Proofs.ClutchMoments
import Scorebook.Proofs.ProgressReport
import Scorebook.Proofs.Spectators
import Scorebook.Proofs.JsonVariants
import Scorebook.Proofs.EventCodec
import Scorebook.Proofs.DamageAssist
import Scorebook.Proofs.FlashCredit
import Scorebook.Proofs.NearestFlash
import Scorebook.Proofs.Redetonation
import Scorebook.Proofs.Landings
import Scorebook.Proofs.MatchTotals
import Scorebook.Proofs.Standings
import Scorebook.Proofs.Flattening
import Scorebook.Proofs.WeaponNames
