import BarkLiquid.Basic
import BarkLiquid.Server.Payments
import BarkLiquid.Server.Run
import BarkLiquid.Server.StatusOrder
import BarkLiquid.Wallet.State
import BarkLiquid.Wallet.Pay
import BarkLiquid.Wallet.Check
import BarkLiquid.Wallet.Concurrent
import BarkLiquid.Wallet.Lifecycle
import BarkLiquid.Server.Sends
import BarkLiquid.Server.Backed
import BarkLiquid.Bridge.Pays
import BarkLiquid.Bridge.Agreement
