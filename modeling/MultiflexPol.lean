import MultiflexPol.Script
import MultiflexPol.Hex
import MultiflexPol.Block
import MultiflexPol.Ledger
import MultiflexPol.History
import MultiflexPol.Accrual
import MultiflexPol.MonthFold
import MultiflexPol.Counters
import MultiflexPol.Subsidy
import MultiflexPol.LoyaltyRamp
import MultiflexPol.Level
import MultiflexPol.Rpc
import MultiflexPol.TagHex
import MultiflexPol.HeightText
import MultiflexPol.Sha256
import MultiflexPol.AddressStatus
import MultiflexPol.StatusResponse
import MultiflexPol.Rebuild
import MultiflexPol.Payout
import MultiflexPol.Reply
import MultiflexPol.LoyaltyPage
import MultiflexPol.OverviewPage
import MultiflexPol.WalletStatus
import MultiflexPol.PageSession
